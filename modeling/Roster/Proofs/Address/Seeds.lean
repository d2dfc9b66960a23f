import Mathlib
import Roster.Proofs.Address.Rereading
import Roster.Proofs.Http.Failures

/-!
# Seeds that are read back

The address of a node that is read from a text is read back from its own text, which can be used as
a seed again. The scheme that is left out is `http`, and all that read seeds accept the same texts.

* `hasScheme_iff`, `readSeed_eq_ok_iff`: what is read as the address of a node.
* `readSeed_surround`: what is read from the text of an address, and from white space around it.
* `readSeed_usualScheme`: texts without a scheme.
* `seeds_read_back`: what becomes of seeds.
-/

namespace Roster

namespace Text

variable {p : Char → Bool} {cs : List Char}

/-- White space is trimmed off at the back. -/
lemma of_getLast?_trimBy {c : Char} (h : (trimBy p cs).getLast? = some c) : p c = false := by
  rw [trimBy, List.getLast?_reverse] at h
  have hhead := List.head?_dropWhile_not p (cs.dropWhile p).reverse
  rw [h] at hhead
  simpa using hhead

/-- Nothing more is trimmed off if what is in front has no white space at its ends. -/
lemma trimBy_append_trimBy {front : List Char} {c d : Char} (hc : front.head? = some c)
    (hd : front.getLast? = some d) (pc : p c = false) (pd : p d = false) :
    trimBy p (front ++ trimBy p cs) = front ++ trimBy p cs := by
  have hhead : (front ++ trimBy p cs).head? = some c := by
    rw [List.head?_append, hc]
    rfl
  cases hlast : (trimBy p cs).getLast? with
  | none =>
      rw [List.getLast?_eq_none_iff.mp hlast, List.append_nil]
      exact trimBy_of_ends rfl hc hd pc pd
  | some e =>
      refine trimBy_of_ends rfl hhead ?_ pc (of_getLast?_trimBy hlast)
      rw [List.getLast?_append, hlast]
      rfl

end Text

namespace Address

open Text (isBlank trim)

variable {a : Address} {cs : List Char} {raw : String}

/-! ### The scheme -/

/-- A text has a scheme if its mark stands anywhere in it. -/
lemma hasScheme_iff : hasScheme cs = true ↔ "://".toList <:+: cs := by
  induction cs with
  | nil => decide
  | cons c cs ih =>
      have hmark : schemeMark = "://".toList := by decide
      rw [hasScheme, Bool.or_eq_true, List.isPrefixOf_iff_prefix, ih, List.infix_cons_iff, hmark]

lemma withScheme_of_infix (h : "://".toList <:+: cs) : withScheme cs = cs :=
  if_pos (hasScheme_iff.mpr h)

/-- Where no scheme is written, it is as if `http` were. -/
lemma readSeed_usualScheme (h : ¬ "://".toList <:+: trim raw.toList) :
    readSeed raw = readSeed ("http://" ++ String.ofList (trim raw.toList)) := by
  have htext : ("http://" ++ String.ofList (trim raw.toList)).toList =
      usualScheme ++ trim raw.toList := by
    rw [String.toList_append]
    exact congrArg (usualScheme ++ ·) String.toList_ofList
  have htrim : trim (usualScheme ++ trim raw.toList) = usualScheme ++ trim raw.toList :=
    Text.trimBy_append_trimBy (c := 'h') (d := '/') rfl rfl (by decide) (by decide)
  have hmark : "://".toList <:+: usualScheme ++ trim raw.toList :=
    ⟨['h', 't', 't', 'p'], trim raw.toList, rfl⟩
  have hwith : withScheme (trim raw.toList) = usualScheme ++ trim raw.toList :=
    if_neg (mt hasScheme_iff.mp h)
  rw [readSeed, readSeed, htext, readSeedChars, readSeedChars, htrim, withScheme_of_infix hmark,
    hwith]

/-! ### Hosts -/

/-- The address of a service that is looked up has a host. -/
lemma host?_ne_none_of_special (h : readChars cs = .ok a)
    (hkind : Kind.ofScheme a.scheme = .special) : a.host? ≠ none := by
  rw [readChars] at h
  split at h
  · cases h
  · split at h
    · rw [(readFile_segments h).1] at hkind
      cases hkind
    · obtain ⟨⟨au, left⟩, hau, h⟩ := bind_eq_ok_iff.mp h
      cases h
      obtain ⟨host, hhost, -⟩ := readHost_special_eq_ok_iff.mp (readAuthority_cases hau).1
      show au.host ≠ none
      rw [hhost]
      exact Option.some_ne_none host
    · next hplain =>
      split at h
      · rw [(readService_segments h).1, hplain] at hkind
        cases hkind
      · cases h
        rw [(readRootless_authority _ _).1, hplain] at hkind
        cases hkind

lemma exists_hostText (h : readChars cs = .ok a) (hhost : a.host? ≠ none) :
    ∃ host, a.hostText? = some host ∧ host ≠ "" := by
  obtain ⟨-, -, host, heq, hne⟩ := text_of_readChars h hhost
  refine ⟨String.ofList host.chars, by rw [hostText?, heq]; rfl, fun hempty => hne ?_⟩
  rwa [← String.toList_inj, String.toList_ofList] at hempty

/-! ### Seeds -/

/-- The address of a node is one with a host. -/
lemma readSeed_eq_ok_iff : readSeed raw = .ok a ↔
    readChars (withScheme (trim raw.toList)) = .ok a ∧ a.host? ≠ none := by
  rw [readSeed, readSeedChars]
  constructor
  · intro h
    obtain ⟨b, hread, h⟩ := bind_eq_ok_iff.mp h
    split_ifs at h with hhost
    · cases h
    · cases h
      exact ⟨hread, hhost⟩
  · rintro ⟨hread, hhost⟩
    refine bind_eq_ok_iff.mpr ⟨a, hread, ?_⟩
    rw [if_neg hhost]
    rfl

lemma isBlank_of_printed {c : Char} (h : 0x20 < c.toNat ∧ c.toNat < 0x7F) : isBlank c = false := by
  simp only [isBlank, Bool.or_eq_false_iff, Bool.and_eq_false_iff, decide_eq_false_iff_not,
    beq_eq_false_iff_ne]
  omega

/-- The text of an address with a host names a node, with or without white space around it, and this
is the node that has the address. -/
lemma readSeed_surround (h : readChars cs = .ok a) (hhost : a.host? ≠ none) (hsettled : a.Settled)
    {pre post : String} (hpre : ∀ c ∈ pre.toList, isBlank c = true)
    (hpost : ∀ c ∈ post.toList, isBlank c = true) : readSeed (pre ++ a.text ++ post) = .ok a := by
  obtain ⟨⟨scheme, rest, hchars⟩, hprinted, -⟩ := text_of_readChars h hhost
  have htext : (pre ++ a.text ++ post).toList = pre.toList ++ a.chars ++ post.toList := by
    rw [String.toList_append, String.toList_append, text, String.toList_ofList]
  have htrim : trim (pre.toList ++ a.chars ++ post.toList) = a.chars := by
    rw [trim, Text.trimBy_surround hpre hpost,
      Text.trimBy_of_none fun c hc => isBlank_of_printed (hprinted c hc)]
  have hmark : "://".toList <:+: a.chars := ⟨scheme, rest, by rw [hchars]; simp⟩
  rw [readSeed_eq_ok_iff, htext, htrim, withScheme_of_infix hmark]
  exact ⟨(readChars_chars_iff h hhost).mpr hsettled, hhost⟩

/-- Nothing is asked of an address that is read from a seed in ASCII without percent signs. -/
lemma settled_of_readSeed (h : readSeed raw = .ok a)
    (hraw : ∀ c ∈ raw.toList, c.toNat < 0x80 ∧ c ≠ '%') : a.Settled := by
  have husual : ∀ c ∈ usualScheme, c.toNat < 0x80 ∧ c ≠ '%' :=
    List.all_iff_forall_prop.mp (by decide)
  refine settled_of_readChars (readSeed_eq_ok_iff.mp h).1 fun c hc => ?_
  rw [withScheme] at hc
  split_ifs at hc
  · exact hraw c (mem_of_mem_trimBy hc)
  · exact (List.mem_append.mp hc).elim (husual c) fun hc => hraw c (mem_of_mem_trimBy hc)

/-! ### Those who read seeds -/

lemma ofNodeText_eq_error_iff {e : Failure} : ofNodeText raw = .error e ↔
    ∃ f, readSeed raw = .error f ∧ e = badNodeText raw f := by
  rw [ofNodeText]
  cases readSeed raw with
  | error f => simp [eq_comm]
  | ok a => simp

/-- The check of the settings objects to a seed exactly if it cannot be read. -/
lemma badSeed_mem_problems_iff {s : Settings} {f : Fault} : .badSeed raw f ∈ s.problems ↔
    raw ∈ s.cluster.seeds ∧ readSeed raw = .error f := by
  have hseed : ∀ text, seedProblem? text = some (.badSeed raw f) ↔
      text = raw ∧ readSeed raw = .error f := by
    intro text
    rw [seedProblem?]
    cases hread : readSeed text with
    | ok a =>
        refine iff_of_false (Option.some_ne_none _).symm ?_
        rintro ⟨rfl, hfault⟩
        rw [hread] at hfault
        cases hfault
    | error f' =>
        constructor
        · rintro ⟨⟩
          exact ⟨rfl, hread⟩
        · rintro ⟨rfl, hfault⟩
          rw [hread] at hfault
          cases hfault
          rfl
  simp [Settings.problems, ClusterSettings.problems, LoggingSettings.problems, hseed]

/-- A command line is refused exactly if it has a seed that cannot be read. -/
lemma withSeed_eq_error_iff {s : Settings} {t : Service.Trouble} : s.withSeed raw = .error t ↔
    ∃ f, readSeed raw = .error f ∧ t = .badSeed raw f := by
  rw [Settings.withSeed]
  cases readSeed raw with
  | error f => simp [eq_comm]
  | ok a =>
      dsimp only
      split_ifs <;> simp

/-- An address that a program holds was read. -/
lemma exists_readChars_of_held (h : Http.Held a) : ∃ cs, readChars cs = .ok a := by
  cases h with
  | seed h => exact ⟨_, (readSeed_eq_ok_iff.mp (ofNodeText_eq_ok_iff.mp h)).1⟩
  | listed hnode h => exact ⟨_, h⟩

/-- **Seeds are read back**, and all that read them agree.

* An address that is read from a text has a host, which is not empty. From its own text, with any
  white space around it, the same address is read, if its host is settled. This is exactly what it
  takes for the text to be read as that address at all, and a text in ASCII without percent signs
  always gives such an address.
* What is read from a text that has no mark of a scheme is what is read from the text behind
  `http://`.
* A pool, the check of the settings and the command line refuse a text exactly if it cannot be read,
  and for that reason.
* An address that a program holds, if it has a host, can be used as a seed in the words in which it
  is printed: what is read is registered under the same key. Members that can be reached over HTTP
  have hosts. -/
theorem seeds_read_back :
    (∀ raw a, readSeed raw = .ok a →
      (∃ host, a.hostText? = some host ∧ host ≠ "") ∧
      (read a.text = .ok a ↔ a.Settled) ∧
      ((∀ c ∈ raw.toList, c.toNat < 0x80 ∧ c ≠ '%') → a.Settled) ∧
      (a.Settled → ∀ pre post : String, (∀ c ∈ pre.toList, isBlank c = true) →
        (∀ c ∈ post.toList, isBlank c = true) → readSeed (pre ++ a.text ++ post) = .ok a)) ∧
    (∀ raw, ¬ "://".toList <:+: trim raw.toList →
      readSeed raw = readSeed ("http://" ++ String.ofList (trim raw.toList))) ∧
    (∀ raw (s : Settings),
      (∀ a, ofNodeText raw = .ok a ↔ readSeed raw = .ok a) ∧
      (∀ e, ofNodeText raw = .error e ↔ ∃ f, readSeed raw = .error f ∧ e = badNodeText raw f) ∧
      (∀ f, .badSeed raw f ∈ s.problems ↔ raw ∈ s.cluster.seeds ∧ readSeed raw = .error f) ∧
      ∀ t, s.withSeed raw = .error t ↔ ∃ f, readSeed raw = .error f ∧ t = .badSeed raw f) ∧
    ∀ a, Http.Held a → (a.host? ≠ none ∨ Kind.ofScheme a.scheme = .special) → a.Settled →
      ∃ b, ofNodeText a.text = .ok b ∧ (Record.unresolved b).key = (Record.unresolved a).key := by
  refine ⟨fun raw a h => ?_, fun raw => readSeed_usualScheme, fun raw s => ⟨fun a =>
    ofNodeText_eq_ok_iff, fun e => ofNodeText_eq_error_iff, fun f => badSeed_mem_problems_iff,
    fun t => withSeed_eq_error_iff⟩, fun a hheld hkind hsettled => ?_⟩
  · obtain ⟨hread, hhost⟩ := readSeed_eq_ok_iff.mp h
    have hiff : read a.text = .ok a ↔ a.Settled := by
      rw [read, text, String.toList_ofList]
      exact readChars_chars_iff hread hhost
    exact ⟨exists_hostText hread hhost, hiff, settled_of_readSeed h, fun hsettled pre post =>
      readSeed_surround hread hhost hsettled⟩
  · obtain ⟨cs, hread⟩ := exists_readChars_of_held hheld
    have hhost : a.host? ≠ none := hkind.elim id (host?_ne_none_of_special hread)
    have hblank : ∀ c ∈ "".toList, isBlank c = true := fun _ hc => absurd hc List.not_mem_nil
    have hseed : readSeed ("" ++ a.text ++ "") = .ok a :=
      readSeed_surround hread hhost hsettled hblank hblank
    rw [String.empty_append, String.append_empty] at hseed
    exact ⟨a, ofNodeText_eq_ok_iff.mpr hseed, rfl⟩

/-- A text in other words than the address that is read from it, and one without a scheme. -/
lemma seeds_read_back_loopback :
    let raw := " STRATA://me@[0:0::1]:08112/a/../b?c#d"
    let a : Address := ⟨"strata", some ⟨"me", "", some (.v6 #v[0, 0, 0, 0, 0, 0, 0, 1]), some 8112⟩,
      .segments ["b"], some "c", some "d"⟩
    readSeed raw = .ok a ∧ a.text = "strata://me@[::1]:8112/b?c#d" ∧
      readSeed "\t strata://me@[::1]:8112/b?c#d\n" = .ok a ∧
      readSeed "10.0.0.1:8112/" = readSeed "http://10.0.0.1:8112/" ∧
      ∃ b, ofNodeText a.text = .ok b ∧ (Record.unresolved b).key = (Record.unresolved a).key := by
  intro raw a
  have hread : readSeed raw = .ok a := by decide +kernel
  have htext : a.text = "strata://me@[::1]:8112/b?c#d" := by decide +kernel
  obtain ⟨hseeds, hscheme, -, hheld⟩ := seeds_read_back
  obtain ⟨-, -, hascii, hback⟩ := hseeds raw a hread
  have hsettled : a.Settled := hascii (List.all_iff_forall_prop.mp (by decide +kernel))
  have hseed := hback hsettled "\t " "\n" (List.all_iff_forall_prop.mp (by decide +kernel))
    (List.all_iff_forall_prop.mp (by decide +kernel))
  rw [htext] at hseed
  have hplain := hscheme "10.0.0.1:8112/" (mt hasScheme_iff.mpr (by decide +kernel))
  rw [show "http://" ++ String.ofList (trim "10.0.0.1:8112/".toList) = "http://10.0.0.1:8112/" by
    decide +kernel] at hplain
  exact ⟨hread, htext, hseed, hplain,
    hheld a (.seed (ofNodeText_eq_ok_iff.mpr hread)) (Or.inl (Option.some_ne_none _)) hsettled⟩

end Address

end Roster
