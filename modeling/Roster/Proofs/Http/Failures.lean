import Roster.Proofs.Http.Inquiry
import Roster.Proofs.Http.Members
import Roster.Proofs.Pool.Setup

/-!
# What goes wrong over HTTP

A program asks the nodes whose addresses it holds, and segments can be added to each of these. So
both questions fail in a way that speaks against the node only, whatever comes of the requests.

* `Held`: the addresses that a program comes to hold; `Held.exists_segments`.
* `memberInquiry`, `gossipInquiry`: the two questions.
* `Views`, `Hears`: the answers are put together from what arrived, line by line.
* `failures_blame_node`: what comes of both questions, for every outcome of the requests.
-/

namespace Roster.Http

open Exchange Outcome
open Address hiding Fault

variable {σ : Type} {node : Address} {t : List (Address × Outcome)}

/-! ### Addresses that can be asked -/

/-- An address that a program comes to hold: it was read from the text of a seed, or it is that of a
member that some node could list. -/
inductive Held : Address → Prop
  | seed {text : String} {a : Address} (h : Address.ofNodeText text = .ok a) : Held a
  | listed {text host : String} {node a : Address} {port : Nat}
      (hnode : Address.read text = .ok node) (h : memberAddress node.scheme host port = .ok a) :
      Held a

lemma toList_memberText (scheme host : String) (port : Nat) :
    (s!"{scheme}://{bracketed host}:{port}").toList = scheme.toList ++
      ':' :: '/' :: '/' :: ((bracketed host).toList ++ ':' :: (toString port).toList) := by
  show (scheme ++ "://" ++ bracketed host ++ ":" ++ toString port).toList = _
  simp only [String.toList_append]
  simp

lemma segments_of_readSeed {text : String} {a : Address} (h : readSeed text = .ok a) :
    ∃ ps, a.path = .segments ps := by
  obtain ⟨a', hread, h⟩ := bind_eq_ok_iff.mp h
  dsimp only at h
  split_ifs at h with hhost
  · cases h
  · cases h
    rcases (readChars_cases hread).2 with hpath | hnone
    · exact hpath
    · exact absurd (by rw [host?, hnone]; rfl) hhost

/-- Segments can be added to every address that is held. -/
lemma Held.exists_segments (h : Held node) : ∃ ps, node.path = .segments ps := by
  cases h with
  | seed h => exact segments_of_readSeed (ofNodeText_eq_ok_iff.mp h)
  | listed hnode h =>
      have hscheme := (readChars_cases hnode).1
      rw [memberAddress, Address.read, toList_memberText] at h
      exact segments_of_slashes hscheme h

/-! ### The two questions -/

/-- The question which members there are. -/
def memberInquiry (node : Address) : Inquiry MemberLine Listing TopologyView where
  settled s :=
    if s.id.isEmpty then some (.error (emptyId node))
    else if hasTopology s.current then none
    else some (.ok ⟨s.id, s.current, []⟩)
  segments s := ["topology", "json", s.current]
  read := readMembers
  line := MemberLine.listing node
  view s members := ⟨s.id, s.current, members⟩

/-- The question what a node has heard. -/
def gossipInquiry (node : Address) : Inquiry GossipLine GossipEntry GossipView where
  settled _ := none
  segments _ := ["gossip", "json"]
  read := readGossip
  line := GossipLine.entry node
  view s entries := ⟨s.id, entries⟩

lemma memberInquiry_line (node : Address) (m : MemberLine) :
    (memberInquiry node).line m = m.listing node := rfl

/-- The state of a node does not settle which members there are if it names a list. -/
lemma settled_memberInquiry_iff (s : NodeState) :
    (memberInquiry node).settled s = none ↔ s.id ≠ "" ∧ hasTopology s.current = true := by
  dsimp only [memberInquiry]
  split_ifs with hid htopology <;> simp_all

lemma gossipInquiry_line (node : Address) (g : GossipLine) :
    (gossipInquiry node).line g = g.entry node := rfl

lemma yields_exchange_of_probe {r : Except Failure TopologyView} (h : Yields (probe node) t r) :
    Yields ((memberInquiry node).exchange node) t r := by
  rw [probe_eq] at h
  obtain ⟨t₁, t₂, state, rfl, hstate, hrest⟩ := yields_bind_iff.mp h
  refine yields_bind_iff.mpr ⟨t₁, t₂, state, rfl, hstate, ?_⟩
  cases state with
  | error f => exact hrest
  | ok s =>
      dsimp only [memberInquiry] at hrest ⊢
      split_ifs at hrest ⊢ with hid htopology
      · exact hrest
      · rw [topology_eq, yields_bind_done_iff] at hrest
        obtain ⟨members, hmembers, rfl⟩ := hrest
        obtain ⟨lines, hlines, rfl⟩ := yields_bind_done_iff.mp hmembers
        refine yields_bind_done_iff.mpr ⟨lines, hlines, ?_⟩
        cases lines <;> rfl
      · exact yields_note_iff.mp hrest

lemma gossip_eq (node : Address) : gossip node = (gossipInquiry node).exchange node := by
  unfold gossip Inquiry.exchange
  congr 1
  funext state
  cases state with
  | error f => rfl
  | ok s =>
      refine congrArg (Exchange.bind _) (funext fun lines => ?_)
      cases lines <;> rfl

/-- The members that a node listed, or none if it uses no list. -/
inductive Views (node : Address) : List (Address × Outcome) → TopologyView → Prop
  | bare {url : Address} {o : Outcome} {s : NodeState} (h : o.Tells readState s)
      (hhash : ∀ c ∈ s.current.toList, c = '0') : Views node [(url, o)] ⟨s.id, s.current, []⟩
  | listed {url url' : Address} {o o' : Outcome} {s : NodeState} {lines : List MemberLine}
      {members : List Listing} (h : o.Tells readState s) (h' : o'.Tells readMembers lines)
      (hlines : List.Forall₂ (fun m listing => listing.identifier = m.id ∧
        memberAddress node.scheme m.host (m.apiPort.getD m.port) = .ok listing.address)
        lines members) :
      Views node [(url, o), (url', o')] ⟨s.id, s.current, members⟩

/-- What a node told of what it has heard. -/
inductive Hears : List (Address × Outcome) → GossipView → Prop
  | heard {url url' : Address} {o o' : Outcome} {s : NodeState} {lines : List GossipLine}
      {entries : List GossipEntry} (h : o.Tells readState s) (h' : o'.Tells readGossip lines)
      (hlines : List.Forall₂ (fun g e => e.identifier = g.id ∧ ageOf g.age = .ok e.age)
        lines entries) :
      Hears [(url, o), (url', o')] ⟨s.id, entries⟩

lemma hasTopology_eq_false_iff {hash : String} :
    hasTopology hash = false ↔ ∀ c ∈ hash.toList, c = '0' := by
  simp [hasTopology]

lemma hasTopology_iff {hash : String} : hasTopology hash = true ↔ ∃ c ∈ hash.toList, c ≠ '0' := by
  simp [hasTopology]

lemma honest_memberInquiry (node : Address) : (memberInquiry node).Honest node (fun s => s.id = "")
    (fun m => ∃ f, memberAddress node.scheme m.host (m.apiPort.getD m.port) = .error f) where
  settled s f h := by
    dsimp only [memberInquiry] at h
    split_ifs at h
    · cases h
      exact ⟨_, rfl⟩
    · cases h
  refused_iff s := by
    dsimp only [memberInquiry]
    split_ifs with hid htopology
    · exact iff_of_true (by simpa using hid) ⟨_, rfl⟩
    · exact iff_of_false (by simpa using hid) (by simp)
    · exact iff_of_false (by simpa using hid) (by simp)
  line m f h := by
    rcases listing_cases node m with ⟨a, -, heq⟩ | ⟨fault, -, heq⟩ <;>
      rw [memberInquiry_line, heq] at h <;> cases h
    exact ⟨_, rfl⟩
  wrong_iff m := by
    rw [memberInquiry_line]
    rcases listing_cases node m with ⟨a, ha, heq⟩ | ⟨fault, hfault, heq⟩
    · exact iff_of_false (by simp [ha]) (by simp [heq])
    · exact iff_of_true ⟨fault, hfault⟩ ⟨_, heq⟩

lemma entry_cases (node : Address) (g : GossipLine) :
    (∃ d, ageOf g.age = .ok d ∧ g.entry node = .ok ⟨g.id, d⟩) ∨
    ∃ f, ageOf g.age = .error f ∧ g.entry node = .error (badAge node g f) := by
  unfold GossipLine.entry
  cases ageOf g.age with
  | error f => exact Or.inr ⟨f, rfl, rfl⟩
  | ok d => exact Or.inl ⟨d, rfl, rfl⟩

lemma honest_gossipInquiry (node : Address) : (gossipInquiry node).Honest node (fun _ => False)
    (fun g => ∃ f, ageOf g.age = .error f) where
  settled s f h := by cases h
  refused_iff s := by simp [gossipInquiry]
  line g f h := by
    rcases entry_cases node g with ⟨d, -, heq⟩ | ⟨fault, -, heq⟩ <;>
      rw [gossipInquiry_line, heq] at h <;> cases h
    exact ⟨_, rfl⟩
  wrong_iff g := by
    rw [gossipInquiry_line]
    rcases entry_cases node g with ⟨d, hd, heq⟩ | ⟨fault, hfault, heq⟩
    · exact iff_of_false (by simp [hd]) (by simp [heq])
    · exact iff_of_true ⟨fault, hfault⟩ ⟨_, heq⟩

lemma views_of_course {v : TopologyView} (h : (memberInquiry node).Course node t (.ok v)) :
    Views node t v := by
  rcases Inquiry.ok_of_course h with
    ⟨url, o, s, rfl, hs, hsettled⟩ | ⟨url, o, url', o', s, lines, members, rfl, hs, h', hlines, rfl⟩
  · dsimp only [memberInquiry] at hsettled
    split_ifs at hsettled with hid htopology
    · cases hsettled
    · cases hsettled
      exact .bare hs (hasTopology_eq_false_iff.mp (by simpa using htopology))
  · refine .listed hs h' (hlines.imp fun m listing hline => ?_)
    rw [memberInquiry_line] at hline
    rcases listing_cases node m with ⟨a, ha, heq⟩ | ⟨f, -, heq⟩ <;> rw [heq] at hline <;> cases hline
    exact ⟨rfl, ha⟩

lemma hears_of_course {v : GossipView} (h : (gossipInquiry node).Course node t (.ok v)) :
    Hears t v := by
  rcases Inquiry.ok_of_course h with
    ⟨_, _, _, -, -, hsettled⟩ | ⟨url, o, url', o', s, lines, entries, rfl, hs, h', hlines, rfl⟩
  · cases hsettled
  · refine .heard hs h' (hlines.imp fun g e hline => ?_)
    rw [gossipInquiry_line] at hline
    rcases entry_cases node g with ⟨d, hd, heq⟩ | ⟨f, -, heq⟩ <;> rw [heq] at hline <;> cases hline
    exact ⟨rfl, hd⟩

/-! ### A node whose answers are late or without a name -/

lemma held_front : Held front := @Held.seed "http://10.0.0.1:8112" front (by decide +kernel)

/-- The node tells who it is, and most of its list does not arrive in time. -/
def lateList : List (Address × Outcome) :=
  [(frontUrl ["state"], arrived "\x7b\"id\":\"a\",\"current\":\"h\"\x7d"),
    (frontUrl ["topology", "json", "h"], .answer 200 "OK" .late)]

lemma yields_lateList : Yields (probe front) lateList
    (.error (lateBody front (frontUrl ["topology", "json", "h"]))) := by
  refine yields_probe_pair_iff.mpr ⟨⟨"a", "h"⟩, ?_, ?_, ?_, ?_, ?_, ?_, ?_, ?_⟩
  all_goals decide +kernel

/-- The node tells that its identifier is empty. -/
def namelessState : Outcome := arrived "\x7b\"id\":\"\",\"current\":\"h\"\x7d"

lemma yields_namelessState :
    Yields (getJson front ["state"] readState) [(frontUrl ["state"], namelessState)]
      (.ok ⟨"", "h"⟩) :=
  yields_getJson_singleton_iff.mpr ⟨by decide +kernel, by decide +kernel, by decide +kernel⟩

/-! ### What comes of both questions -/

/-- **Failures speak against the node that was asked.** Let a program hold the address of a node,
and ask it which members there are, or what it has heard, with any network. There is an answer, and
whatever the outcomes of the requests were: a failure speaks against this node; it says that the
time was over exactly if this is what happened to some request; and it says that the protocol was
broken exactly if what arrived is unusable, or a line cannot be taken, or the node told the question
which members there are that its identifier is empty. The list of members is asked for exactly if the
state that was told names one, with an identifier that is not empty; but if the address of the list
is longer than any request may be, this is what is wrong, and nothing is sent. An answer that is no
failure was put together from the answers to all requests, line by line. -/
theorem failures_blame_node (h : Held node) :
    (∀ t r, Yields (probe node) t r →
      Ends node (fun s => ["topology", "json", s.current]) (fun s => s.id = "") readMembers
        (fun m => ∃ f, memberAddress node.scheme m.host (m.apiPort.getD m.port) = .error f) t r ∧
      (∀ url o t' s url', t = (url, o) :: t' → o.Tells readState s →
        node.add? ["topology", "json", s.current] = some url' →
        (t' ≠ [] ↔ (s.id ≠ "" ∧ ∃ c ∈ s.current.toList, c ≠ '0') ∧ fits url' = true) ∧
          (s.id ≠ "" → (∃ c ∈ s.current.toList, c ≠ '0') → fits url' = false →
            r = .error (notMade node url'))) ∧
      ∀ v, r = .ok v → Views node t v) ∧
    (∀ t r, Yields (gossip node) t r →
      Ends node (fun _ => ["gossip", "json"]) (fun _ => False) readGossip
        (fun g => ∃ f, ageOf g.age = .error f) t r ∧
      ∀ v, r = .ok v → Hears t v) ∧
    ∀ (fetch : Address → StateM σ Outcome) (write : Log.Event → StateM σ Unit) (st : σ),
      (∃ t, Yields (probe node) t (((probe node).runWith fetch write).run st).1 ∧
        ∀ x ∈ t, ∃ st', x.2 = ((fetch x.1).run st').1) ∧
      ∃ t, Yields (gossip node) t (((gossip node).runWith fetch write).run st).1 ∧
        ∀ x ∈ t, ∃ st', x.2 = ((fetch x.1).run st').1 := by
  refine ⟨fun t r hyields => ?_, fun t r hyields => ?_, fun fetch write st => ⟨?_, ?_⟩⟩
  · have hcourse := Inquiry.course_of_yields h.exists_segments (yields_exchange_of_probe hyields)
    refine ⟨Inquiry.ends_of_course (honest_memberInquiry node) hcourse, ?_, ?_⟩
    · rintro url o t' s url' rfl hs hurl'
      obtain ⟨hasked, hlong⟩ := Inquiry.list_asked_iff hcourse hs hurl'
      rw [settled_memberInquiry_iff, hasTopology_iff] at hasked hlong
      exact ⟨hasked, fun hid hhash => hlong ⟨hid, hhash⟩⟩
    · rintro v rfl
      exact views_of_course hcourse
  · rw [gossip_eq] at hyields
    have hcourse := Inquiry.course_of_yields h.exists_segments hyields
    refine ⟨Inquiry.ends_of_course (honest_gossipInquiry node) hcourse, ?_⟩
    rintro v rfl
    exact hears_of_course hcourse
  · obtain ⟨t, hyields, ht⟩ := exists_yields_runWith fetch write (probe node) st
    exact ⟨t, hyields, fun x hx => ht x.1 x.2 hx⟩
  · obtain ⟨t, hyields, ht⟩ := exists_yields_runWith fetch write (gossip node) st
    exact ⟨t, hyields, fun x hx => ht x.1 x.2 hx⟩

/-- A list that does not arrive in time speaks against the node that was asked, and says that the
time was over. -/
theorem failures_blame_node_late :
    Held front ∧ ∃ f, Yields (probe front) lateList (.error f) ∧ f.isTimeout = true ∧
      f.isNodeFailure = true ∧ f.address? = some front.text ∧
      ∀ reason, f ≠ .protocol front.text reason := by
  obtain ⟨hends, -, -⟩ := (failures_blame_node (σ := Unit) held_front).1 _ _ yields_lateList
  obtain ⟨hnode, haddress⟩ := hends.blames _ rfl
  obtain ⟨f, hf, hlate⟩ := hends.late.mpr ⟨_, List.mem_cons_of_mem _ (List.mem_singleton_self _),
    by decide⟩
  cases hf
  exact ⟨held_front, _, yields_lateList, hlate, hnode, haddress, fun reason heq => by cases heq⟩

/-- An empty identifier breaks the protocol if a node is asked which members there are, but not if it
is asked what it has heard. -/
theorem heard_of_namelessState :
    Held front ∧ namelessState.Tells readState ⟨"", "h"⟩ ∧
      Yields (probe front) [(frontUrl ["state"], namelessState)]
        (.error (.protocol front.text "node state has an empty id")) ∧
      Yields (gossip front) [(frontUrl ["state"], namelessState),
        (frontUrl ["gossip", "json"], arrived "[]")] (.ok ⟨"", []⟩) := by
  have hreceived : received readState front (frontUrl ["state"]) namelessState = .ok ⟨"", "h"⟩ := by
    decide +kernel
  refine ⟨held_front, received_eq_ok_iff.mp hreceived, yields_probe_iff.mpr ?_, ?_⟩
  · exact Or.inr ⟨_, _, [], rfl, yields_namelessState, Or.inl ⟨rfl, rfl, rfl⟩⟩
  · refine yields_bind_iff.mpr ⟨_, _, _, rfl, yields_namelessState, ?_⟩
    refine yields_bind_iff.mpr ⟨[_], [], .ok [], rfl, ?_, .done _⟩
    exact yields_getJson_singleton_iff.mpr ⟨by decide +kernel, by decide +kernel, by decide +kernel⟩

end Roster.Http
