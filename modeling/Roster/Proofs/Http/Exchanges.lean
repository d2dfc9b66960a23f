import Roster.Http.Client
import Roster.Proofs.Json.Form

/-!
# What exchanges yield

A run of an exchange is described by its transcript: every address that was asked, with the outcome.
What an exchange yields depends on the outcomes only.

* `Exchange.Yields`: what an exchange yields with a transcript; `yields_bind_iff` takes it apart.
* `Exchange.exists_yields_runWith`: what `Exchange.runWith` yields with a network is such a result,
  with outcomes that the network gave.
* `yields_probe_iff`: what comes of asking a node which members there are.
* `ToldList`, `listed_of_yields_probe`: the members that a node lists are the lines of the list that
  it told.
* `ports_of_readMembers`: the ports of a list.
-/

namespace Roster.Http

open Json (Fault)

namespace Exchange

variable {α β σ : Type}

/-- What an exchange yields if the addresses that it asks have the given outcomes. -/
inductive Yields : Exchange α → List (Address × Outcome) → α → Prop
  | done (r : α) : Yields (.done r) [] r
  | note {e : Log.Event} {next : Exchange α} {t : List (Address × Outcome)} {r : α}
      (h : Yields next t r) : Yields (.note e next) t r
  | get {url : Address} {next : Outcome → Exchange α} {o : Outcome}
      {t : List (Address × Outcome)} {r : α} (h : Yields (next o) t r) :
      Yields (.get url next) ((url, o) :: t) r

variable {t : List (Address × Outcome)} {r : β}

lemma yields_done_iff {x : β} : Yields (.done x) t r ↔ t = [] ∧ r = x := by
  refine ⟨fun h => ?_, ?_⟩
  · cases h
    exact ⟨rfl, rfl⟩
  · rintro ⟨rfl, rfl⟩
    exact .done _

lemma yields_note_iff {e : Log.Event} {next : Exchange β} :
    Yields (.note e next) t r ↔ Yields next t r := by
  refine ⟨fun h => ?_, .note⟩
  cases h with
  | note h => exact h

lemma yields_get_iff {url : Address} {next : Outcome → Exchange β} :
    Yields (.get url next) t r ↔ ∃ o t', t = (url, o) :: t' ∧ Yields (next o) t' r := by
  refine ⟨fun h => ?_, ?_⟩
  · cases h with
    | get h => exact ⟨_, _, rfl, h⟩
  · rintro ⟨o, t', rfl, h⟩
    exact .get h

/-- Two exchanges one after the other. -/
lemma yields_bind_iff {x : Exchange α} {k : α → Exchange β} :
    Yields (x.bind k) t r ↔
      ∃ t₁ t₂ a, t = t₁ ++ t₂ ∧ Yields x t₁ a ∧ Yields (k a) t₂ r := by
  constructor
  · intro h
    induction x generalizing t with
    | done a => exact ⟨[], t, a, rfl, .done a, h⟩
    | note e next ih =>
        obtain ⟨t₁, t₂, a, rfl, h₁, h₂⟩ := ih (yields_note_iff.mp h)
        exact ⟨t₁, t₂, a, rfl, .note h₁, h₂⟩
    | get url next ih =>
        obtain ⟨o, t', rfl, hnext⟩ := yields_get_iff.mp h
        obtain ⟨t₁, t₂, a, rfl, h₁, h₂⟩ := ih o hnext
        exact ⟨(url, o) :: t₁, t₂, a, rfl, .get h₁, h₂⟩
  · rintro ⟨t₁, t₂, a, rfl, h₁, h₂⟩
    induction h₁ with
    | done a => exact h₂
    | note _ ih => exact .note (ih h₂)
    | get _ ih => exact .get (ih h₂)

/-- With a network whose outcomes may depend on all that it was asked before, an exchange yields
what it yields with the outcomes of that network. -/
lemma exists_yields_runWith (fetch : Address → StateM σ Outcome) (write : Log.Event → StateM σ Unit)
    (x : Exchange α) (st : σ) :
    ∃ t, Yields x t ((x.runWith fetch write).run st).1 ∧
      ∀ url o, (url, o) ∈ t → ∃ st', o = ((fetch url).run st').1 := by
  induction x generalizing st with
  | done a => exact ⟨[], .done a, by simp⟩
  | note e next ih =>
      obtain ⟨t, h, hfetch⟩ := ih ((write e).run st).2
      exact ⟨t, .note h, hfetch⟩
  | get url next ih =>
      obtain ⟨t, h, hfetch⟩ := ih ((fetch url).run st).1 ((fetch url).run st).2
      refine ⟨_, .get h, fun url' o ho => ?_⟩
      rcases List.mem_cons.mp ho with heq | ho
      · cases heq
        exact ⟨st, rfl⟩
      · exact hfetch url' o ho

end Exchange

/-! ### Asking for JSON -/

section getJson

open Exchange

variable {α : Type} {read : List Char → Except Fault α} {node : Address}
  {segments : List String} {t : List (Address × Outcome)}

/-- Nobody is asked, or one address is. -/
lemma yields_getJson_iff {r : Except Failure α} :
    Yields (getJson node segments read) t r ↔
      (t = [] ∧ (node.add? segments = none ∧ r = .error (noBase node) ∨
        ∃ url, node.add? segments = some url ∧ isRequest url = false ∧
          r = .error (notMade node url))) ∨
      ∃ url o, node.add? segments = some url ∧ isRequest url = true ∧ t = [(url, o)] ∧
        r = received read node url o := by
  unfold getJson
  cases hadd : node.add? segments with
  | none => simp [yields_done_iff]
  | some url =>
      cases hrequest : isRequest url with
      | false => simp [yields_done_iff, hrequest]
      | true => simp [yields_get_iff, yields_done_iff, hrequest]

lemma yields_getJson_ok_iff {a : α} :
    Yields (getJson node segments read) t (.ok a) ↔
      ∃ url o, node.add? segments = some url ∧ isRequest url = true ∧ t = [(url, o)] ∧
        received read node url o = .ok a := by
  rw [yields_getJson_iff]
  constructor
  · rintro (⟨-, ⟨-, heq⟩ | ⟨url, -, -, heq⟩⟩ | ⟨url, o, hadd, hrequest, ht, heq⟩)
    · cases heq
    · cases heq
    · exact ⟨url, o, hadd, hrequest, ht, heq.symm⟩
  · rintro ⟨url, o, hadd, hrequest, ht, heq⟩
    exact Or.inr ⟨url, o, hadd, hrequest, ht, heq.symm⟩

/-- One answer is that of the address that was asked. -/
lemma yields_getJson_singleton_iff {url : Address} {o : Outcome} {r : Except Failure α} :
    Yields (getJson node segments read) [(url, o)] r ↔
      node.add? segments = some url ∧ isRequest url = true ∧ r = received read node url o := by
  rw [yields_getJson_iff]
  constructor
  · rintro (⟨hnil, -⟩ | ⟨url', o', hadd, hrequest, heq, hr⟩)
    · cases hnil
    · cases heq
      exact ⟨hadd, hrequest, hr⟩
  · rintro ⟨hadd, hrequest, hr⟩
    exact Or.inr ⟨url, o, hadd, hrequest, rfl, hr⟩

lemma scheme_of_add? {url : Address} (h : node.add? segments = some url) :
    url.scheme = node.scheme := by
  unfold Address.add? at h
  split at h
  · cases h
  · cases h
    rfl

lemma hostText?_of_add? {url : Address} (h : node.add? segments = some url) :
    url.hostText? = node.hostText? := by
  unfold Address.add? at h
  split at h
  · cases h
  · cases h
    rfl

lemma scheme_of_isRequest {url : Address} (h : isRequest url = true) :
    url.scheme = "http" ∨ url.scheme = "https" := by
  simp only [isRequest, Bool.and_eq_true, Bool.or_eq_true, beq_iff_eq] at h
  exact h.1.1

end getJson

/-! ### Asking which members there are -/

section probe

open Exchange

variable {node url url' : Address} {o o' : Outcome} {t : List (Address × Outcome)}

lemma topology_eq (node : Address) (hash : String) :
    topology node hash = (getJson node ["topology", "json", hash] readMembers).bind fun lines =>
      .done (lines.bind fun ms => ms.mapM (MemberLine.listing node)) := by
  unfold topology
  congr 1
  funext lines
  cases lines <;> rfl

lemma probe_eq (node : Address) :
    probe node = (getJson node ["state"] readState).bind fun state =>
      match state with
      | .error f => .done (.error f)
      | .ok s =>
        if s.id.isEmpty then .done (.error (emptyId node))
        else if hasTopology s.current then
          (topology node s.current).bind fun members =>
            .done (members.map fun members => ⟨s.id, s.current, members⟩)
        else .note (noTopology node s) (.done (.ok ⟨s.id, s.current, []⟩)) := by
  unfold probe
  congr 1
  funext state
  cases state with
  | error f => rfl
  | ok s =>
      dsimp only
      congr 2
      refine congrArg (Exchange.bind _) (funext fun members => ?_)
      cases members <;> rfl

lemma yields_bind_done_iff {α β : Type} {x : Exchange α} {f : α → β} {r : β} :
    Yields (x.bind fun a => .done (f a)) t r ↔ ∃ a, Yields x t a ∧ r = f a := by
  simp [yields_bind_iff, yields_done_iff]

/-- **What comes of a probe.** A node is asked for its state, and then for the list that it uses, if
it uses one. -/
theorem yields_probe_iff {r : Except Failure TopologyView} :
    Yields (probe node) t r ↔
      (∃ f, Yields (getJson node ["state"] readState) t (.error f) ∧ r = .error f) ∨
      ∃ s t₁ t₂, t = t₁ ++ t₂ ∧ Yields (getJson node ["state"] readState) t₁ (.ok s) ∧
        (s.id = "" ∧ t₂ = [] ∧ r = .error (emptyId node) ∨
        s.id ≠ "" ∧ hasTopology s.current = false ∧ t₂ = [] ∧ r = .ok ⟨s.id, s.current, []⟩ ∨
        s.id ≠ "" ∧ hasTopology s.current = true ∧ ∃ lines,
          Yields (getJson node ["topology", "json", s.current] readMembers) t₂ lines ∧
          r = (lines.bind fun ms => ms.mapM (MemberLine.listing node)).map fun members =>
            ⟨s.id, s.current, members⟩) := by
  rw [probe_eq, yields_bind_iff]
  constructor
  · rintro ⟨t₁, t₂, state, rfl, hstate, hrest⟩
    cases state with
    | error f =>
        obtain ⟨rfl, rfl⟩ := yields_done_iff.mp hrest
        exact Or.inl ⟨f, by rwa [List.append_nil], rfl⟩
    | ok s =>
        refine Or.inr ⟨s, t₁, t₂, rfl, hstate, ?_⟩
        dsimp only at hrest
        split_ifs at hrest with hid htopology
        · exact Or.inl ⟨by simpa using hid, yields_done_iff.mp hrest⟩
        · rw [topology_eq, yields_bind_done_iff] at hrest
          obtain ⟨members, hmembers, rfl⟩ := hrest
          obtain ⟨lines, hlines, rfl⟩ := yields_bind_done_iff.mp hmembers
          exact Or.inr (Or.inr ⟨by simpa using hid, htopology, lines, hlines, rfl⟩)
        · exact Or.inr (Or.inl ⟨by simpa using hid, by simpa using htopology,
            yields_done_iff.mp (yields_note_iff.mp hrest)⟩)
  · rintro (⟨f, hstate, rfl⟩ | ⟨s, t₁, t₂, rfl, hstate, hrest⟩)
    · exact ⟨t, [], .error f, (List.append_nil t).symm, hstate, .done _⟩
    · refine ⟨t₁, t₂, .ok s, rfl, hstate, ?_⟩
      dsimp only
      rcases hrest with ⟨hid, rfl, rfl⟩ | ⟨hid, htopology, rfl, rfl⟩ |
        ⟨hid, htopology, lines, hlines, rfl⟩
      · rw [if_pos (by simpa using hid)]
        exact .done _
      · rw [if_neg (by simpa using hid), if_neg (by simp [htopology])]
        exact .note (.done _)
      · rw [if_neg (by simpa using hid), if_pos htopology, topology_eq]
        exact yields_bind_done_iff.mpr ⟨_, yields_bind_done_iff.mpr ⟨lines, hlines, rfl⟩, rfl⟩

/-- If two addresses were asked, the first told the state of the node and the second its list. -/
lemma yields_probe_pair_iff {r : Except Failure TopologyView} :
    Yields (probe node) [(url, o), (url', o')] r ↔
      ∃ s, node.add? ["state"] = some url ∧ isRequest url = true ∧
        received readState node url o = .ok s ∧ s.id ≠ "" ∧ hasTopology s.current = true ∧
        node.add? ["topology", "json", s.current] = some url' ∧ isRequest url' = true ∧
        r = ((received readMembers node url' o').bind fun ms =>
          ms.mapM (MemberLine.listing node)).map fun members => ⟨s.id, s.current, members⟩ := by
  rw [yields_probe_iff]
  constructor
  · rintro (⟨f, hstate, -⟩ | ⟨s, t₁, t₂, ht, hstate, hrest⟩)
    · rcases yields_getJson_iff.mp hstate with ⟨hnil, -⟩ | ⟨_, _, -, -, heq, -⟩
      · cases hnil
      · cases heq
    · obtain ⟨url₁, o₁, hadd, hrequest, rfl, hread⟩ := yields_getJson_ok_iff.mp hstate
      obtain ⟨heq, rfl⟩ := List.cons.inj ht
      cases heq
      rcases hrest with ⟨-, hnil, -⟩ | ⟨-, -, hnil, -⟩ | ⟨hid, htopology, lines, hlines, rfl⟩
      · cases hnil
      · cases hnil
      · obtain ⟨hadd', hrequest', rfl⟩ := yields_getJson_singleton_iff.mp hlines
        exact ⟨s, hadd, hrequest, hread, hid, htopology, hadd', hrequest', rfl⟩
  · rintro ⟨s, hadd, hrequest, hread, hid, htopology, hadd', hrequest', rfl⟩
    refine Or.inr ⟨s, [(url, o)], [(url', o')], rfl, ?_,
      Or.inr (Or.inr ⟨hid, htopology, _, ?_, rfl⟩)⟩
    · exact yields_getJson_singleton_iff.mpr ⟨hadd, hrequest, hread.symm⟩
    · exact yields_getJson_singleton_iff.mpr ⟨hadd', hrequest', rfl⟩

/-- One of the outcomes of a transcript is a list. -/
def ToldList (node : Address) (t : List (Address × Outcome)) (lines : List MemberLine) : Prop :=
  ∃ url o, (url, o) ∈ t ∧ received readMembers node url o = .ok lines

/-- A node that tells who it is has an identifier, and the members that it lists are the lines of
the list that it told. -/
lemma listed_of_yields_probe {v : TopologyView} (h : Yields (probe node) t (.ok v)) :
    v.identifier ≠ "" ∧ ∃ lines, (lines = [] ∨ ToldList node t lines) ∧
      List.Forall₂ (fun m listing => m.listing node = .ok listing) lines v.members := by
  rcases yields_probe_iff.mp h with ⟨f, -, heq⟩ | ⟨s, t₁, t₂, rfl, -, hrest⟩
  · cases heq
  · rcases hrest with ⟨-, -, heq⟩ | ⟨hid, -, -, heq⟩ | ⟨hid, -, lines, hlines, heq⟩
    · cases heq
    · cases heq
      exact ⟨hid, [], Or.inl rfl, .nil⟩
    · obtain ⟨members, hmembers, hview⟩ := Json.map_eq_ok_iff.mp heq.symm
      cases hview
      cases lines with
      | error f => cases hmembers
      | ok ms =>
          obtain ⟨url, o, -, -, rfl, hread⟩ := yields_getJson_ok_iff.mp hlines
          exact ⟨hid, ms, Or.inr ⟨url, o, by simp, hread⟩, mapM_eq_ok_iff.mp hmembers⟩

/-! ### The lines of a list -/

lemma memberForm_sound : memberForm.Sound := by
  refine ⟨by decide, ?_, ?_⟩ <;> simp [memberForm, Json.Datum.Is]

lemma ports_of_ofData {ds : List Json.Datum} {m : MemberLine} (hds : memberForm.Holds ds)
    (h : MemberLine.ofData ds = .ok m) : m.apiPort.getD m.port < Nat.pow 2 16 := by
  unfold MemberLine.ofData at h
  split at h
  · cases h
    simp only [Json.Form.Holds, memberForm, List.forall₂_cons, Json.Datum.Is] at hds
    obtain ⟨-, -, hport, hapiPort, -⟩ := hds
    rename_i apiPort
    cases apiPort with
    | none => exact hport
    | some p => exact hapiPort p rfl
  · cases h

/-- The ports of the lines of a list are small enough. -/
lemma ports_of_readMembers {cs : List Char} {lines : List MemberLine}
    (h : readMembers cs = .ok lines) : ∀ m ∈ lines, m.apiPort.getD m.port < Nat.pow 2 16 := by
  unfold readMembers Json.whole at h
  split at h
  · next records rest hread =>
    split at h
    · have hall := mapM_eq_ok_iff.mp h
      intro m hm
      obtain ⟨ds, hds, hline⟩ := exists_of_forall₂ hall.flip hm
      exact ports_of_ofData (Json.Form.readAll_is memberForm_sound hread ds hds) hline
    · cases h
  · cases h

lemma ports_of_received {node url : Address} {o : Outcome} {lines : List MemberLine}
    (h : received readMembers node url o = .ok lines) :
    ∀ m ∈ lines, m.apiPort.getD m.port < Nat.pow 2 16 := by
  unfold received at h
  split at h
  · cases h
  · split at h
    · cases h
    · split at h
      · cases h
      · cases h
      · next bytes =>
        split at h
        · next hbody =>
          cases h
          unfold readBody at hbody
          cases hread : readMembers (Text.Utf8.decodeWith Json.stray bytes) with
          | error f =>
              rw [hread] at hbody
              cases hbody
          | ok lines' =>
              rw [hread] at hbody
              cases hbody
              exact ports_of_readMembers hread
        · cases h

end probe

end Roster.Http
