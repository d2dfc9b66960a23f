import Roster.Proofs.Http.Members
import Roster.Proofs.Pool.Naming

/-!
# Members without a name

A node that tells the empty text as its identifier is refused. The lines of its list are taken as
they are: a member has the empty identifier if its line does, and that is the only way in which a
pool that asks over HTTP comes to register it.

* `identifiers_of_listings`: the identifiers of listed members are those of the lines.
* `Tells`: what a node may answer that is asked over HTTP. With a client, nodes answer in that way.
* `OverHttp`: all that the calls of a pool were told, they were told over HTTP.
* `Lists`: a node told a line to a call that takes listed members over.
* `nameless_only_if_listed`: where the identifiers of a view and of a pool come from.
-/

namespace Roster.Http

open Activity Address Discovery Exchange

variable {τ σ : Type} {node : Address}

/-! ### What nodes tell over HTTP -/

/-- The identifiers of the members that a node lists are those of the lines. -/
lemma identifiers_of_listings {lines : List MemberLine} {members : List Listing}
    (h : List.Forall₂ (fun m listing => m.listing node = .ok listing) lines members) :
    members.map Listing.identifier = lines.map MemberLine.id := by
  have hone : ∀ (m : MemberLine) listing, m.listing node = .ok listing →
      m.id = listing.identifier := by
    intro m listing hline
    rcases listing_cases node m with ⟨a, -, heq⟩ | ⟨f, -, heq⟩ <;> rw [hline] at heq <;> cases heq
    rfl
  rw [← List.forall₂_eq_eq_eq, List.forall₂_map_left_iff, List.forall₂_map_right_iff]
  exact h.flip.imp fun listing m hline => (hone m listing hline).symm

/-- A node that is asked over HTTP answers with a view only if this is what comes of a probe. -/
def Tells (node : Address) (answer : Except Failure TopologyView) : Prop :=
  ∀ v, answer = .ok v → ∃ t, Yields (probe node) t (.ok v)

/-- With any network, a client tells what it is told over HTTP. -/
lemma tells_of_client (fetch : Address → StateM σ Outcome) (write : Log.Event → StateM σ Unit)
    (service : Record → StateM σ (Except Failure τ)) (limit : Duration) (as : List Address)
    (st : σ) : List.Forall₂ Tells as (((client fetch write service).probe limit as).run st).1 := by
  show List.Forall₂ Tells as
    ((as.mapM fun a => (probe a).runWith fetch write : StateM σ _).run st).1
  induction as generalizing st with
  | nil => exact .nil
  | cons a as ih =>
      rw [List.mapM_cons]
      refine .cons (fun v hv => ?_) (ih _)
      obtain ⟨t, hyields, -⟩ := exists_yields_runWith fetch write (probe a) st
      exact ⟨t, hv ▸ hyields⟩

/-! ### Pools that ask over HTTP -/

/-- All that the calls of a pool were told of the members, they were told over HTTP. -/
def OverHttp (s : Chronicle τ) : Prop :=
  ∀ task ∈ s.tasks, ∀ reg asked answers, .probed reg asked answers ∈ task.told →
    List.Forall₂ Tells asked answers

/-- A line of a list that a node told to a call that takes listed members over. -/
def Lists (s : Chronicle τ) (m : MemberLine) : Prop :=
  ∃ task ∈ s.tasks, task.call.merges = true ∧
    ∃ reg asked answers v, .probed reg asked answers ∈ task.told ∧ .ok v ∈ answers ∧
      ∃ node ∈ asked, ∃ t lines, Yields (probe node) t (.ok v) ∧ ToldList node t lines ∧ m ∈ lines

/-- A node answered a call under an identifier. -/
def AnswersAs (s : Chronicle τ) (i : String) : Prop :=
  ∃ task ∈ s.tasks, ∃ reg asked answers v, .probed reg asked answers ∈ task.told ∧
    .ok v ∈ answers ∧ v.identifier = i

variable {s : Chronicle τ} {i : String}

/-- What is mentioned over HTTP is the identifier of a node that answered, which is not empty, or
that of a line. -/
lemma OverHttp.of_mentions (hhttp : OverHttp s) (h : s.Mentions i) :
    i ≠ "" ∧ AnswersAs s i ∨ ∃ m, Lists s m ∧ m.id = i := by
  obtain ⟨task, htask, reg, asked, answers, v, hprobed, hv, hi⟩ := h
  obtain ⟨node, hnode, hask⟩ :=
    exists_of_forall₂ (hhttp task htask reg asked answers hprobed).flip hv
  obtain ⟨t, hyields⟩ := hask v rfl
  obtain ⟨hid, lines, hlines, hlistings⟩ := listed_of_yields_probe hyields
  rcases hi with rfl | ⟨hmerges, hcontains⟩
  · exact Or.inl ⟨hid, task, htask, reg, asked, answers, v, hprobed, hv, rfl⟩
  · right
    have hmem : i ∈ lines.map MemberLine.id := by
      rw [← identifiers_of_listings hlistings, List.mem_map]
      simpa [TopologyView.contains] using hcontains
    obtain ⟨m, hm, rfl⟩ := List.mem_map.mp hmem
    refine ⟨m, ⟨task, htask, hmerges, reg, asked, answers, v, hprobed, hv, node, hnode, t, lines,
      hyields, hlines.resolve_left ?_, hm⟩, rfl⟩
    rintro rfl
    cases hm

/-! ### A node that lists a member without a name -/

/-- A list of one member, whose identifier is empty. -/
def namelessLines : String := "[\x7b\"id\":\"\",\"address\":\"10.0.0.2\",\"port\":8112\x7d]"

/-- The view of the node that tells this list. -/
def namelessView : TopologyView := ⟨"a", "h", [⟨"", service "http" (.v4 0x0a000002) 8112⟩]⟩

lemma yields_namelessLines :
    Yields (probe front) (frontTells namelessLines) (.ok namelessView) := by
  refine yields_probe_pair_iff.mpr ⟨⟨"a", "h"⟩, ?_, ?_, ?_, ?_, ?_, ?_, ?_, ?_⟩
  all_goals decide +kernel

/-- A network on which only this node answers. -/
def namelessNetwork (url : Address) : StateM Unit Outcome :=
  pure (((frontTells namelessLines).lookup url).getD (.silence false))

/-- What a pool is told that asks this node. -/
lemma tells_namelessNetwork : List.Forall₂ Tells [front] [.ok namelessView] := by
  have hclient := tells_of_client (τ := Unit) namelessNetwork (fun _ => pure ())
    (fun _ => pure (.ok ())) ⟨1⟩ [front] ()
  have hview : (((client namelessNetwork (fun _ => pure ())
      fun _ => (pure (.ok ()) : StateM Unit (Except Failure Unit))).probe ⟨1⟩ [front]).run ()).1 =
        [.ok namelessView] := by
    decide +kernel
  rwa [hview] at hclient

/-- A pool is given the node to start from, and then looks for members once. -/
lemma nameless_run : ∃ s : Chronicle Unit, Chronicle.LeadsWithout "" (.start 0 .first) s ∧
    OverHttp s ∧ s.ledger.registry.contains (.identifier "") = true ∧
    s.ledger.registry.isActive? (.identifier "") = some true := by
  let d : Discovery := ⟨⟨1⟩, true⟩
  have h₀ : Chronicle.LeadsWithout "" (.start 0 .first : Chronicle Unit) (.start 0 .first) := .refl
  have h₁ := h₀.tail ⟨_, .call (.bootstrap d [front]), by simp⟩
  have h₂ := h₁.tail ⟨_, @Chronicle.Move.answer Unit _ 0 ⟨.bootstrap d [front], [], _, _⟩ _ _ rfl
    (.probe [.ok namelessView] rfl), by simp⟩
  have h₃ := h₂.tail ⟨_, .call (.refresh d), by simp⟩
  have h₄ := h₃.tail ⟨_, @Chronicle.Move.answer Unit _ 1 ⟨.refresh d, [], _, _⟩ _ _ rfl
    (.probe [.ok namelessView] rfl), by simp⟩
  refine ⟨_, h₄, ?_, by decide, by decide⟩
  -- Both calls asked the node, and it told the same view.
  intro task htask reg asked answers hx
  rcases List.mem_cons.mp htask with rfl | htask
  · cases List.mem_singleton.mp hx
    exact tells_namelessNetwork
  · rw [List.mem_singleton.mp htask] at hx
    cases List.mem_singleton.mp hx
    exact tells_namelessNetwork

/-! ### Where identifiers come from -/

/-- **Members without a name.** Over HTTP, a view is that of a node with an identifier, and the
members that it lists have the identifiers of the lines of the list that the node told, in order. In
every run of a pool that begins without members and asks over HTTP, with any number of passes,
refreshes, bootstraps, probes and calls of nodes at once, an identifier that no other caller
registers is registered only if it is not empty and some node answered under it, or if it is that of
a line that a node told to a call that takes listed members over. So the empty identifier is
registered only if a node listed it. -/
theorem nameless_only_if_listed :
    (∀ node t v, Yields (probe node) t (.ok v) → v.identifier ≠ "" ∧
      ∃ lines, (lines = [] ∨ ToldList node t lines) ∧
        v.members.map Listing.identifier = lines.map MemberLine.id) ∧
    ∀ (s : Chronicle τ) now strategy i, Chronicle.LeadsWithout i (.start now strategy) s →
      OverHttp s → s.ledger.registry.contains (.identifier i) = true →
      i ≠ "" ∧ AnswersAs s i ∨ ∃ m, Lists s m ∧ m.id = i := by
  refine ⟨fun node t v hyields => ?_, fun s now strategy i hrun hhttp hi => ?_⟩
  · obtain ⟨hid, lines, hlines, hlistings⟩ := listed_of_yields_probe hyields
    exact ⟨hid, lines, hlines, identifiers_of_listings hlistings⟩
  · exact hhttp.of_mentions (hrun.mentions hi)

/-- A view with a member without a name comes from a line without a name, and so does the empty
identifier in a pool. -/
theorem nameless_only_if_listed_run :
    (Yields (probe front) (frontTells namelessLines) (.ok namelessView) ∧
      ∃ lines, ToldList front (frontTells namelessLines) lines ∧ lines.map MemberLine.id = [""]) ∧
    ∃ s : Chronicle Unit, Chronicle.LeadsWithout "" (.start 0 .first) s ∧ OverHttp s ∧
      s.ledger.registry.contains (.identifier "") = true ∧ ∃ m, Lists s m ∧ m.id = "" := by
  obtain ⟨hviews, hruns⟩ := nameless_only_if_listed (τ := Unit)
  constructor
  · obtain ⟨-, lines, hlines, hids⟩ := hviews _ _ _ yields_namelessLines
    refine ⟨yields_namelessLines, lines, hlines.resolve_left ?_, hids.symm⟩
    rintro rfl
    cases hids
  · obtain ⟨s, hrun, hhttp, hi, -⟩ := nameless_run
    refine ⟨s, hrun, hhttp, hi, ?_⟩
    rcases hruns s 0 .first "" hrun hhttp hi with ⟨hne, -⟩ | hlisted
    · exact absurd rfl hne
    · exact hlisted

/-- A member is listed without a name, and a pool makes it an active one. -/
theorem nameless_registered :
    (Yields (probe front) (frontTells namelessLines) (.ok namelessView) ∧
      namelessView.members.map Listing.identifier = [""]) ∧
    ∃ s : Chronicle Unit, Chronicle.LeadsWithout "" (.start 0 .first) s ∧ OverHttp s ∧
      s.ledger.registry.isActive? (.identifier "") = some true := by
  obtain ⟨s, hrun, hhttp, -, hactive⟩ := nameless_run
  exact ⟨⟨yields_namelessLines, rfl⟩, s, hrun, hhttp, hactive⟩

end Roster.Http
