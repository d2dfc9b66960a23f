import Roster.Proofs.Address.Segments
import Roster.Proofs.Http.Members

/-!
# What is asked for

The list of members is asked for under a hash that the node tells, which may be any text. Whatever
it is, the request goes to the node that told it, behind the path of its address. The hash is one
more segment there, unless nothing of it is visible or it looks like a segment that stands for a
directory: then the request goes to some other place of this node.

* `NamesList`: the hashes that name a list.
* `text_eq_text_iff`: addresses that differ in their paths only.
* `add?_hash`: what a hash becomes.
* `list_request_iff`: where the list is asked for.
-/

namespace Roster

namespace Address

variable {a : Address} {p q : Path}

/-- The texts of two addresses with the same authority differ if their paths do. -/
lemma text_eq_text_iff (hauthority : a.authority ≠ none) :
    ({ a with path := p } : Address).text = ({ a with path := q } : Address).text ↔
      p.chars = q.chars := by
  have hfront : ∀ p, ({ a with path := p } : Address).frontChars =
      '/' :: '/' :: ((a.authority.map Authority.chars).getD []) := by
    intro p
    unfold frontChars
    cases h : a.authority with
    | none => exact absurd h hauthority
    | some au => rfl
  unfold text
  rw [(⟨String.ofList_injective, congrArg _⟩ : String.ofList _ = String.ofList _ ↔ _ = _)]
  simp [chars, hfront]

lemma chars_segments_concat (ps : List String) (last : String) :
    (Path.segments (ps ++ [last])).chars = (Path.segments ps).chars ++ '/' :: last.toList := by
  simp [Path.chars]

end Address

namespace Http

open Address Exchange

variable {node : Address} {hash hash' : String} {ps : List String}

/-- The hashes that name a list: some of the text is visible, and it does not look like a segment
that stands for a directory. -/
def NamesList (hash : String) : Prop := visible hash.toList ∉ [[], ['.'], ['.', '.']]

instance (hash : String) : Decidable (NamesList hash) := by
  unfold NamesList
  infer_instance

/-- The segments in front of the hash. -/
def listNames : List String := ["topology", "json"]

lemma isName_listNames (kind : Kind) : ∀ name ∈ listNames, IsName kind name.toList := by
  have htopology : IsName kind "topology".toList := by
    cases kind <;> exact ⟨by decide, by decide, by decide, by decide, by decide⟩
  have hjson : IsName kind "json".toList := by
    cases kind <;> exact ⟨by decide, by decide, by decide, by decide, by decide⟩
  simpa [listNames] using ⟨htopology, hjson⟩

/-- **What a hash becomes.** It is one more segment behind the path of the node, or it names no
list. -/
lemma add?_hash (hpath : node.path = .segments ps) (hash : String) :
    ∃ behind, node.add? ["topology", "json", hash] =
        some { node with path := .segments (stem ps ++ "topology" :: behind) } ∧
      (NamesList hash ∧ behind =
          ["json", String.ofList (segmentOf (Kind.ofScheme node.scheme) hash.toList)] ∨
        ¬NamesList hash ∧ behind ∈ [["json"], ["json", ""], [""]]) := by
  have hadd : node.add? ["topology", "json", hash] = _ :=
    add?_text hpath (by decide) (isName_listNames (Kind.ofScheme node.scheme)) hash
  have hlong : 1 < ((stem ps ++ listNames).map String.toList).length := by
    simp [listNames]
  rw [hadd]
  rcases addSegment_cases (Kind.ofScheme node.scheme) hlong hash.toList with
    ⟨hdots, heq⟩ | ⟨-, ⟨hdouble, heq⟩ | ⟨hsingle, heq⟩ | ⟨hdouble, hsingle, heq⟩⟩ <;> rw [heq]
  · refine ⟨["json"], by simp [listNames], Or.inr ⟨fun hnames => hnames ?_, by simp⟩⟩
    rcases hdots with hdots | hdots <;> rw [hdots] <;> decide
  · refine ⟨[""], ?_, Or.inr ⟨fun hnames => hnames (by simp [hdouble]), by simp⟩⟩
    simp [listNames, List.dropLast_append_of_ne_nil]
  · refine ⟨["json", ""], ?_, Or.inr ⟨fun hnames => hnames (by simp [hsingle]), by simp⟩⟩
    simp [listNames]
  · by_cases hempty : visible hash.toList = []
    · refine ⟨["json", ""], ?_, Or.inr ⟨fun hnames => hnames (by simp [hempty]), by simp⟩⟩
      rw [segmentOf_eq_nil_iff.mpr hempty]
      simp [listNames]
    · exact ⟨_, by simp [listNames], Or.inl ⟨by simp [NamesList, hempty, hsingle, hdouble], rfl⟩⟩

lemma path_of_add?_hash {url : Address} (hpath : node.path = .segments ps) (hnames : NamesList hash)
    (h : node.add? ["topology", "json", hash] = some url) :
    url = { node with path := .segments (stem ps ++ "topology" ::
      ["json", String.ofList (segmentOf (Kind.ofScheme node.scheme) hash.toList)]) } := by
  obtain ⟨behind, hadd, hbehind⟩ := add?_hash hpath hash
  rw [h] at hadd
  rcases hbehind with ⟨-, rfl⟩ | ⟨hnot, -⟩
  · exact Option.some.inj hadd
  · exact absurd hnames hnot

/-- The lists of two hashes that name one are asked for in one place only if these look the same. -/
lemma text_eq_text_iff_visible {url url' : Address} (hauthority : node.authority ≠ none)
    (hpath : node.path = .segments ps) (hnames : NamesList hash) (hnames' : NamesList hash')
    (h : node.add? ["topology", "json", hash] = some url)
    (h' : node.add? ["topology", "json", hash'] = some url') :
    url.text = url'.text ↔ visible hash.toList = visible hash'.toList := by
  have hconcat : ∀ last : String, stem ps ++ "topology" :: ["json", last] =
      stem ps ++ listNames ++ [last] := by simp [listNames]
  rw [path_of_add?_hash hpath hnames h, path_of_add?_hash hpath hnames' h',
    text_eq_text_iff hauthority, hconcat, hconcat, chars_segments_concat, chars_segments_concat]
  simp [segmentOf_eq_iff]

/-- Nobody else is asked for a list. -/
lemma asked_of_yields_topology {url : Address} {t : List (Address × Outcome)}
    {r : Except Failure (List Listing)} (hadd : node.add? ["topology", "json", hash] = some url)
    (h : Yields (topology node hash) t r) : ∀ x ∈ t, x.1 = url := by
  rw [topology_eq, yields_bind_done_iff] at h
  obtain ⟨lines, hlines, -⟩ := h
  rcases yields_getJson_iff.mp hlines with ⟨rfl, -⟩ | ⟨url', o, hadd', -, rfl, -⟩
  · exact nofun
  · rw [hadd] at hadd'
    intro x hx
    rw [List.mem_singleton.mp hx, Option.some.inj hadd']

/-! ### A node that tells odd hashes -/

/-- What a node tells that has put a tab in front of two dots. -/
def oddState : Outcome := arrived "\x7b\"id\":\"a\",\"current\":\"\\t..\"\x7d"

lemma yields_oddState : Yields (probe front)
    [(frontUrl ["state"], oddState), (frontUrl ["topology", ""], arrived "[]")]
    (.ok ⟨"a", "\t..", []⟩) := by
  refine yields_probe_pair_iff.mpr ⟨⟨"a", "\t.."⟩, ?_, ?_, ?_, ?_, ?_, ?_, ?_, ?_⟩
  all_goals decide +kernel

/-! ### Where the list is -/

/-- **Where the list is asked for.** Let the text of a node read as an address with a host. Whatever
hash it tells, the list is asked for at this node, in a place whose path starts with that of the
node. If the hash names a list, what follows is `topology`, `json` and one more segment, which is
not empty; if it does not, there is no such segment, and only then. Two hashes that name a list lead
to one place exactly if what is visible of them is the same. -/
theorem list_request_iff {text : String} (hread : Address.read text = .ok node)
    (hhost : node.host? ≠ none) :
    ∃ ps, node.path = .segments ps ∧ ∀ hash, ∃ url behind,
      node.add? ["topology", "json", hash] = some url ∧
      (∀ t r, Yields (topology node hash) t r → ∀ x ∈ t, x.1 = url) ∧
      url = { node with path := .segments (stem ps ++ "topology" :: behind) } ∧
      ((∃ last, behind = ["json", last] ∧ last ≠ "" ∧ ∀ c ∈ ['/', '?', '#'], c ∉ last.toList) ↔
        NamesList hash) ∧
      (¬NamesList hash → behind ∈ [["json"], ["json", ""], [""]]) ∧
      ∀ hash' url', NamesList hash → NamesList hash' →
        node.add? ["topology", "json", hash'] = some url' →
        (url.text = url'.text ↔ visible hash.toList = visible hash'.toList) := by
  obtain ⟨ps, hpath⟩ := exists_segments hread hhost
  have hauthority : node.authority ≠ none := fun hnone => hhost (by rw [host?, hnone]; rfl)
  refine ⟨ps, hpath, fun hash => ?_⟩
  obtain ⟨behind, hadd, hbehind⟩ := add?_hash hpath hash
  refine ⟨_, behind, hadd, fun t r hyields => asked_of_yields_topology hadd hyields, rfl, ?_, ?_,
    fun hash' url' hnames hnames' hadd' =>
      text_eq_text_iff_visible hauthority hpath hnames hnames' hadd hadd'⟩
  · rcases hbehind with ⟨hnames, rfl⟩ | ⟨hnot, hmem⟩
    · refine iff_of_true ⟨_, rfl, fun hempty => hnames ?_, fun c hc => ?_⟩ hnames
      · simp [segmentOf_eq_nil_iff.mp (by simpa using hempty)]
      · simpa using notMem_segmentOf hc
    · refine iff_of_false ?_ hnot
      rintro ⟨last, rfl, hlast, -⟩
      simp [hlast] at hmem
  · intro hnot
    exact (hbehind.resolve_left fun h => hnot h.1).2

/-- A hash with slashes is one segment behind the path of the node. -/
theorem list_request_iff_slashes :
    ∃ node, Address.read "http://10.0.0.1:8112/db/?x=1" = .ok node ∧ node.host? ≠ none ∧
      hasTopology "../a%2Fb" = true ∧ ∃ url last,
        node.add? ["topology", "json", "../a%2Fb"] = some url ∧
        url = { node with path := .segments ["db", "topology", "json", last] } ∧
        last ≠ "" ∧ '/' ∉ last.toList := by
  obtain ⟨node, hread, hpath, hhost⟩ : ∃ node : Address,
      Address.read "http://10.0.0.1:8112/db/?x=1" = .ok node ∧ node.path = .segments ["db", ""] ∧
        node.host? ≠ none := by
    refine ⟨⟨"http", some (.ofHost (some (.v4 0x0a000001)) (some 8112)), .segments ["db", ""],
      some "x=1", none⟩, ?_, ?_, ?_⟩ <;> decide +kernel
  obtain ⟨ps, hps, hlist⟩ := list_request_iff hread hhost
  obtain rfl : ["db", ""] = ps := by simpa [hpath] using hps
  obtain ⟨url, behind, hadd, -, hurl, hnames, -⟩ := hlist "../a%2Fb"
  obtain ⟨last, rfl, hlast, hclean⟩ := hnames.mpr (by decide)
  exact ⟨node, hread, hhost, by decide, url, last, hadd, hurl, hlast, hclean '/' (by simp)⟩

/-- A hash can lead to a place that is not that of a list, and two hashes to the same one. -/
theorem hash_misleads :
    Address.read "http://10.0.0.1:8112" = .ok front ∧ front.host? ≠ none ∧
      hasTopology "\t.." = true ∧
      Yields (probe front)
        [(frontUrl ["state"], oddState), (frontUrl ["topology", ""], arrived "[]")]
        (.ok ⟨"a", "\t..", []⟩) ∧
      hasTopology ".." = true ∧
      front.add? ["topology", "json", ".."] = some (frontUrl ["topology", "json"]) ∧
      hasTopology "h\t" = true ∧
      front.add? ["topology", "json", "h"] = front.add? ["topology", "json", "h\t"] := by
  refine ⟨?_, ?_, ?_, yields_oddState, ?_, ?_, ?_, ?_⟩ <;> decide +kernel

end Http

end Roster
