import Roster.Proofs.Address.Service
import Roster.Proofs.Http.Exchanges

/-!
# Where listed members are

A node lists members by a host, which may be any text, and ports. The address of a member is put
together from these and the scheme of the node, and then read. It is the address of that host and
that port if the text has no character that bounds a host; any other text that is accepted puts the
host or the port elsewhere.

* `hostChars`: the text of a host, as it stands in an address.
* `MemberLine.Placed`: the address of a member has the host and the port that are listed, and
  nothing else.
* `memberAddress_eq_ok_iff`: which texts are accepted, if none of their characters bounds a host.
* `members_placed_iff`: what a probe makes of the lines of a list.
-/

namespace Roster.Http

open Address Exchange

/-- The text of a host as it stands in an address, where tabs and line ends count for nothing. -/
def hostChars (host : String) : List Char := visible (bracketed host).toList

/-- The address of a member is that of the host and the port that its line lists, in the way in
which the node is reached that lists it: the whole text is the host, and there is nothing else. -/
structure MemberLine.Placed (node : Address) (m : MemberLine) (a : Address) : Prop where
  scheme : a.scheme = node.scheme
  host : ∃ host, a.host? = some host ∧ readSpecialHost (hostChars m.host) = .ok host
  /-- The port that counts, be it written or the usual one. -/
  port : a.port?.or (usualPort? a.scheme) = some (m.apiPort.getD m.port)
  user : a.user = ""
  password : a.password? = none
  path : a.path = .segments [""]
  query : a.query = none
  fragment : a.fragment = none

variable {node : Address} {m : MemberLine}

lemma toList_bracketed (host : String) :
    (bracketed host).toList = host.toList ∨
      (bracketed host).toList = '[' :: (host.toList ++ [']']) := by
  unfold bracketed
  split_ifs
  · right
    show ("[" ++ host ++ "]").toList = _
    rw [String.toList_append, String.toList_append]
    rfl
  · exact Or.inl rfl

lemma mem_bracketed {host : String} {c : Char} (hc : c ∈ host.toList) :
    c ∈ (bracketed host).toList := by
  rcases toList_bracketed host with heq | heq <;> rw [heq]
  · exact hc
  · exact List.mem_cons_of_mem _ (List.mem_append_left _ hc)

lemma notMem_hostBounds_of_bracketed {host : String} (h : ∀ c ∈ host.toList, c ∉ hostBounds) :
    ∀ c ∈ (bracketed host).toList, c ∉ hostBounds := by
  rcases toList_bracketed host with heq | heq <;> rw [heq]
  · exact h
  · intro c hc
    rcases List.mem_cons.mp hc with rfl | hc
    · decide
    · rcases List.mem_append.mp hc with hc | hc
      · exact h c hc
      · rw [List.mem_singleton.mp hc]
        decide

lemma placed_service {host : Host} (hhost : readSpecialHost (hostChars m.host) = .ok host) :
    m.Placed node (service node.scheme host (m.apiPort.getD m.port)) :=
  ⟨rfl, ⟨host, rfl, hhost⟩, unusualPort?_or _ _, rfl, rfl, rfl, rfl, rfl⟩

/-- Texts that do not bound a host are accepted if they are a host as a whole. -/
lemma memberAddress_eq_ok_iff {scheme host : String} {port : Nat} {a : Address}
    (hscheme : scheme = "http" ∨ scheme = "https") (hport : port < Nat.pow 2 16)
    (hbounds : ∀ c ∈ host.toList, c ∉ hostBounds) :
    memberAddress scheme host port = .ok a ↔
      ∃ h, readSpecialHost (hostChars host) = .ok h ∧ a = service scheme h port := by
  have htext : (s!"{scheme}://{bracketed host}:{port}").toList =
      serviceChars scheme (bracketed host).toList port := by
    show (scheme ++ "://" ++ bracketed host ++ ":" ++ toString port).toList = _
    have hport : (toString port).toList = Text.decimal port := by
      rw [Nat.toString_eq_ofList_toDigits, String.toList_ofList]
      rfl
    simp only [String.toList_append, hport, serviceChars]
    simp
  rw [memberAddress, Address.read, htext]
  exact readChars_eq_ok_iff hscheme hport (notMem_hostBounds_of_bracketed hbounds)

/-- A text that is accepted as it is meant has no character that bounds a host. -/
lemma MemberLine.Placed.notMem_hostBounds {a : Address} (h : m.Placed node a) :
    ∀ c ∈ m.host.toList, c ∉ hostBounds := by
  intro c hc hbound
  have hseen : ∀ c ∈ hostBounds, isIgnored c = false :=
    List.all_iff_forall_prop.mp (by decide)
  obtain ⟨host, -, hread⟩ := h.host
  exact notMem_of_hostBound hbound hread
    (List.mem_filter.mpr ⟨mem_bracketed hc, by simp [hseen c hbound]⟩)

/-- The address of a line is that of its host and its port exactly if the host has no character that
bounds one. -/
lemma placed_iff {a : Address} (hscheme : node.scheme = "http" ∨ node.scheme = "https")
    (hport : m.apiPort.getD m.port < Nat.pow 2 16)
    (hread : memberAddress node.scheme m.host (m.apiPort.getD m.port) = .ok a) :
    m.Placed node a ↔ ∀ c ∈ m.host.toList, c ∉ hostBounds := by
  refine ⟨MemberLine.Placed.notMem_hostBounds, fun hbounds => ?_⟩
  obtain ⟨host, hhost, rfl⟩ := (memberAddress_eq_ok_iff hscheme hport hbounds).mp hread
  exact placed_service hhost

/-- A line gives the member that it lists, or its address is none. -/
lemma listing_cases (node : Address) (m : MemberLine) :
    (∃ a, memberAddress node.scheme m.host (m.apiPort.getD m.port) = .ok a ∧
      m.listing node = .ok ⟨m.id, a⟩) ∨
    ∃ f, memberAddress node.scheme m.host (m.apiPort.getD m.port) = .error f ∧
      m.listing node = .error (badMember node m f) := by
  unfold MemberLine.listing
  cases memberAddress node.scheme m.host (m.apiPort.getD m.port) with
  | error f => exact Or.inr ⟨f, rfl, rfl⟩
  | ok a => exact Or.inl ⟨a, rfl, rfl⟩

/-! ### A node that lists more than hosts -/

/-- A node that is reached over HTTP. -/
def front : Address := service "http" (.v4 0x0a000001) 8112

/-- What the node is asked for. -/
def frontUrl (segments : List String) : Address := { front with path := .segments segments }

/-- A text that arrived as a whole. -/
def arrived (text : String) : Outcome := .answer 200 "OK" (.whole (Text.Utf8.encode text.toList))

/-- The node tells who it is, and then a list. -/
def frontTells (lines : String) : List (Address × Outcome) :=
  [(frontUrl ["state"], arrived "\x7b\"id\":\"a\",\"current\":\"h\"\x7d"),
    (frontUrl ["topology", "json", "h"], arrived lines)]

/-- A list in which a host is given a user, and another one a path. -/
def oddLines : String :=
  "[\x7b\"id\":\"b\",\"address\":\"10.0.0.2\",\"port\":8112\x7d," ++
    "\x7b\"id\":\"c\",\"address\":\"user@10.0.0.3\",\"port\":8112\x7d," ++
    "\x7b\"id\":\"d\",\"address\":\"10.0.0.4/x\",\"port\":8112\x7d]"

/-- The member whose host is given a user. -/
def userMember : Listing :=
  ⟨"c", ⟨"http", some ⟨"user", "", some (.v4 0x0a000003), some 8112⟩, .segments [""], none, none⟩⟩

/-- The member whose host is given a path, of which the port has become a part. -/
def pathMember : Listing :=
  ⟨"d", ⟨"http", some (.ofHost (some (.v4 0x0a000004)) none), .segments ["x:8112"], none, none⟩⟩

lemma received_oddLines :
    received readMembers front (frontUrl ["topology", "json", "h"]) (arrived oddLines) =
      .ok [⟨"b", "10.0.0.2", 8112, none⟩, ⟨"c", "user@10.0.0.3", 8112, none⟩,
        ⟨"d", "10.0.0.4/x", 8112, none⟩] := by
  decide +kernel

lemma yields_oddLines :
    Yields (probe front) (frontTells oddLines)
      (.ok ⟨"a", "h", [⟨"b", service "http" (.v4 0x0a000002) 8112⟩, userMember, pathMember]⟩) := by
  refine yields_probe_pair_iff.mpr ⟨⟨"a", "h"⟩, ?_, ?_, ?_, ?_, ?_, ?_, ?_, ?_⟩
  all_goals decide +kernel

/-! ### What becomes of a list -/

/-- **Where listed members are.** Let a node be asked which members there are, and tell a list.
Then the probe fails because the address of some line is none, and the failure says so; or it yields
one member for each line, in order, under the identifier of the line. The address of a member is
then the one that its line means exactly if no character of the host bounds one; and a line whose
host has no such character is refused only if the text is no host. -/
theorem members_placed_iff {url url' : Address} {o o' : Outcome} {r : Except Failure TopologyView}
    {lines : List MemberLine} (h : Yields (probe node) [(url, o), (url', o')] r)
    (hread : received readMembers node url' o' = .ok lines) :
    (∃ m ∈ lines, ∃ reason : String, r = .error (.protocol node.text
        s!"member {m.id} has bad address '{m.host}': {reason}") ∧
      ((∀ c ∈ m.host.toList, c ∉ hostBounds) →
        ∀ host, readSpecialHost (hostChars m.host) ≠ .ok host)) ∨
    ∃ v, r = .ok v ∧ List.Forall₂ (fun m listing => listing.identifier = m.id ∧
      (m.Placed node listing.address ↔ ∀ c ∈ m.host.toList, c ∉ hostBounds)) lines v.members := by
  obtain ⟨s, -, -, -, -, -, hadd, hrequest, rfl⟩ := yields_probe_pair_iff.mp h
  have hscheme : node.scheme = "http" ∨ node.scheme = "https" :=
    scheme_of_add? hadd ▸ scheme_of_isRequest hrequest
  have hports := ports_of_received hread
  rw [hread]
  cases hmembers : lines.mapM (MemberLine.listing node) with
  | error f =>
      obtain ⟨m, hm, hline⟩ := exists_of_mapM_eq_error hmembers
      rcases listing_cases node m with ⟨a, -, heq⟩ | ⟨fault, hfault, heq⟩
      · rw [hline] at heq
        cases heq
      · refine Or.inl ⟨m, hm, fault.message, ?_, fun hbounds host hhost => ?_⟩
        · rw [hline] at heq
          cases heq
          show Except.map _ (lines.mapM _) = _
          rw [hmembers]
          rfl
        · have hok := (memberAddress_eq_ok_iff hscheme (hports m hm) hbounds).mpr
            ⟨host, hhost, rfl⟩
          rw [hfault] at hok
          cases hok
  | ok members =>
      refine Or.inr ⟨⟨s.id, s.current, members⟩, ?_, ?_⟩
      · show Except.map _ (lines.mapM _) = _
        rw [hmembers]
        rfl
      · have hboth := (List.forall₂_and_left _ _).mpr ⟨hports, mapM_eq_ok_iff.mp hmembers⟩
        refine hboth.imp ?_
        rintro m listing ⟨hport, hline⟩
        rcases listing_cases node m with ⟨a, ha, heq⟩ | ⟨fault, -, heq⟩ <;> rw [hline] at heq
        · cases heq
          exact ⟨rfl, placed_iff hscheme hport ha⟩
        · cases heq

/-- Of the members of this list, the first one is placed where its line says, and the view holds all
three. -/
theorem members_placed_iff_oddLines :
    Yields (probe front) (frontTells oddLines)
        (.ok ⟨"a", "h", [⟨"b", service "http" (.v4 0x0a000002) 8112⟩, userMember, pathMember]⟩) ∧
      received readMembers front (frontUrl ["topology", "json", "h"]) (arrived oddLines) =
        .ok [⟨"b", "10.0.0.2", 8112, none⟩, ⟨"c", "user@10.0.0.3", 8112, none⟩,
          ⟨"d", "10.0.0.4/x", 8112, none⟩] ∧
      MemberLine.Placed front ⟨"b", "10.0.0.2", 8112, none⟩
        (service "http" (.v4 0x0a000002) 8112) := by
  refine ⟨yields_oddLines, received_oddLines, ?_⟩
  rcases members_placed_iff yields_oddLines received_oddLines with
    ⟨_, -, _, hfail, -⟩ | ⟨v, hv, hplaced⟩
  · cases hfail
  · cases hv
    obtain ⟨⟨-, hb⟩, -⟩ := List.forall₂_cons.mp hplaced
    exact hb.mpr (List.all_iff_forall_prop.mp (by decide))

/-- A member can be given a user that its node makes up, and the port that it lists can be lost. -/
theorem not_placed_oddLines :
    Yields (probe front) (frontTells oddLines)
        (.ok ⟨"a", "h", [⟨"b", service "http" (.v4 0x0a000002) 8112⟩, userMember, pathMember]⟩) ∧
      received readMembers front (frontUrl ["topology", "json", "h"]) (arrived oddLines) =
        .ok [⟨"b", "10.0.0.2", 8112, none⟩, ⟨"c", "user@10.0.0.3", 8112, none⟩,
          ⟨"d", "10.0.0.4/x", 8112, none⟩] ∧
      ¬ MemberLine.Placed front ⟨"c", "user@10.0.0.3", 8112, none⟩ userMember.address ∧
      ¬ MemberLine.Placed front ⟨"d", "10.0.0.4/x", 8112, none⟩ pathMember.address := by
  refine ⟨yields_oddLines, received_oddLines, fun hplaced => ?_, fun hplaced => ?_⟩
  · have huser : userMember.address.user ≠ "" := by decide
    exact huser hplaced.user
  · have hport : pathMember.address.port?.or (usualPort? pathMember.address.scheme) = some 80 := by
      decide
    have hlisted := hplaced.port.symm.trans hport
    cases hlisted

end Roster.Http
