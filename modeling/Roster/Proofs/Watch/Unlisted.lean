import Roster.Proofs.Watch.Course

/-!
# Members that nobody lists

If members are taken over and some active member lists others, a pass leaves those out that nobody
lists. Two kinds of members stay or become active all the same: one whose answer took too long and
that another member has heard from; and one that was unknown before and answered when a member was
asked again, be it one that had no identifier yet or one whose place it has taken.

It is left open what becomes of a member that was known before and that answers in the place of one
that has no identifier.

* `Reappears` is this last case.
* `active_pass_listed`: but for this case, who is active after a pass is listed, or of one of the
  two kinds.
* `unlisted_pass_outsiders`: a pass after which members of both kinds are active.
-/

namespace Roster

namespace Watch

open Activity Discovery Registry

variable {τ : Type} {w : Watch} {l l' : Ledger} {t : List (Exchange τ)} {i : String}
  {xs : List (Record × Except Failure TopologyView)}

/-- If members are taken over and some view lists anybody, to be listed is to be in some view. -/
lemma viewed_of_listed {merges : Bool} (h : Listed merges xs i) (hmerges : merges = true)
    (hsaw : ∃ v, Viewed xs v ∧ v.members ≠ []) : ∃ v, Viewed xs v ∧ v.contains i = true := by
  obtain ⟨v, hv, hmembers⟩ := hsaw
  rcases h with hno | hempty | hlisted
  · exact absurd hno (by simp [hmerges])
  · exact absurd (hempty v hv) hmembers
  · exact hlisted

/-- Whether a member of a registry answered in the place of one without an identifier, among some
members that were asked again. -/
def Reappears (reg : Registry) (xs : List (Record × Except Failure TopologyView)) (i : String) :
    Prop :=
  reg.contains (.identifier i) = true ∧
    ∃ r v, (r, .ok v) ∈ xs ∧ r.identifier = none ∧ v.identifier = i

/-- **Who is not listed stays out.** Let nobody but the pass change the registry meanwhile, and let
members be taken over and some view of an active member list anybody. If the pass succeeds, every
active member that has an identifier is listed in some view of an active member afterwards, but for

* one that was active, took too long to answer and is vouched for;
* one that was unknown before, and under whose identifier a member answered that was asked again.

Nothing is said about a member that was known before and answered in the place of one without an
identifier. -/
theorem active_pass_listed {s : PassSummary} (h : l.registry.WellFormed)
    (hmerges : w.discovery.merges = true)
    (hrun : Runs Ledger.Later (w.pass : Activity τ (Except Failure PassSummary)) l t (.ok s) l') :
    ∃ (answers : List (Except Failure TopologyView)) (gossips : List (Exchange τ))
      (middle : Registry) (again : List Record) (answers' : List (Except Failure TopologyView)),
      t = .probed l.registry (l.registry.active.map Record.address) answers ::
        (gossips ++ [.probed middle (again.map Record.address) answers']) ∧
      answers.length = l.registry.active.length ∧ answers'.length = again.length ∧
      gossips.map peer? <+: ((asked l.registry answers).filter fun x => (fault? x).isNone).map
        (fun x => some x.1.address) ∧
      (∀ r ∈ again, r ∈ middle.inactive ∧ r.key ∈ l.registry.inactive.map Record.key) ∧
      ((∃ v, Viewed (asked l.registry answers) v ∧ v.members ≠ []) →
        ∀ r ∈ l'.registry.active, ∀ i, r.identifier = some i →
          ¬ Reappears l.registry (again.zip answers') i →
          (∃ v, Viewed (asked l.registry answers) v ∧ v.contains i = true) ∨
          (∃ r f, (r, .error f) ∈ asked l.registry answers ∧ r.identifier = some i ∧
            f.isTimeout = true ∧ Vouched w gossips i) ∨
          (l.registry.contains (.identifier i) = false ∧
            ∃ r v, (r, .ok v) ∈ again.zip answers' ∧ v.identifier = i)) := by
  obtain ⟨o, t', rfl, hend⟩ := exists_opening hrun
  obtain ⟨n, again, middle, l₁, answers', probed, hret, hlength', rfl, hl₁, hprobes, rfl⟩ :=
    hend.of_ok
  have hmiddle : middle.registry.WellFormed := by
    have hwell := o.wellFormed_retirement h
    rwa [hret] at hwell
  have hagain : ∀ r ∈ again, (r ∈ middle.registry.inactive ∧
      r.key ∈ l.registry.inactive.map Record.key) ∧
      isListed w.discovery.merges o.report r = true := by
    intro r hr
    rw [(retire_ok hret).2.2.2, List.mem_filter, List.mem_filter, List.contains_iff_mem] at hr
    exact hr
  refine ⟨o.answers, o.gossips, middle.registry, again, answers', rfl, o.length_answers, hlength',
    o.peers_gossips, fun r hr => (hagain r hr).1, fun hsaw r hr i hi hopen => ?_⟩
  have hactive : (takeProbes (again.zip answers') {} l₁).2.registry.isActive? (.identifier i) =
      some true := by
    have hend := (takeProbes_leadsTo (hl₁ ▸ hmiddle) (again.zip answers') {}).wellFormed
      (hl₁ ▸ hmiddle)
    exact hend.isActive?_identifier_iff.mpr ⟨r, hr, hi⟩
  rw [active_takeProbes_iff (hl₁ ▸ hmiddle) hprobes, hl₁,
    active_retire_iff h o.length_answers o.registry_taking o.mem_kept_iff o.registry_retiring hret,
    contains_retire_eq_false_iff o.registry_taking o.registry_retiring hret] at hactive
  rcases hactive with (⟨-, hspared⟩ | ⟨-, -, hlisted⟩) | ⟨r', v, hr', hv, hcase⟩
  · rcases hspared with ⟨-, -, -, -, -, hlisted⟩ | hvouched
    · exact Or.inl (viewed_of_listed hlisted hmerges hsaw)
    · exact Or.inr (Or.inl hvouched)
  · exact Or.inl hlisted
  · rcases hcase with hnone | hself | ⟨hnew, -⟩
    · -- The answer of a member without an identifier counts here only if it brings a new one.
      cases hknown : l.registry.contains (.identifier i) with
      | true => exact absurd ⟨hknown, r', v, hr', hnone, hv⟩ hopen
      | false => exact Or.inr (Or.inr ⟨rfl, r', v, hr', hv⟩)
    · -- A member that was asked again under its own identifier counts as listed.
      have hlisted := isListed_takeRefresh_iff.mp (hagain r' (List.of_mem_zip hr').1).2 i hself
      exact Or.inl (viewed_of_listed hlisted hmerges hsaw)
    · exact Or.inr (Or.inr ⟨hnew, r', v, hr', hv⟩)

/-! ### Members of both kinds -/

/-- Four nodes of which the first one lists itself and the last one only: the second one is silent,
but the first one has heard from it; the third one answers under an identifier of its own; and at
the address of the last one another node answers. -/
def outsiders (a b c d : Address) : Client (StateM Unit) Unit where
  probe _ as := pure <| as.map fun x =>
    if x = a then .ok ⟨"a", "", [⟨"a", a⟩, ⟨"d", d⟩]⟩
    else if x = b then .error (.noAnswer b ⟨1⟩)
    else if x = c then .ok ⟨"c", "", []⟩
    else .ok ⟨"e", "", []⟩
  gossip _ _ := pure (.ok ⟨"a", [⟨"b", ⟨0⟩⟩]⟩)
  call _ := pure (.ok ())

/-- Four nodes of which the first two are active members, and the third one has no identifier. -/
def encounter (a b c d : Address) : Registry :=
  ⟨[.fresh (.resolved a "a" none) true 0, .fresh (.resolved b "b" none) true 0,
    .fresh (.unresolved c) false 0, .fresh (.resolved d "d" none) false 0]⟩

/-- A pass among the four nodes, with what the active ones answer. -/
lemma runs_pass_outsiders :
    let place (name : String) : Address := ⟨"http", none, .whole name, none, none⟩
    let a := place "a"
    let d := place "d"
    let reg := encounter a (place "b") (place "c") d
    let l : Ledger := { Ledger.start 0 .first with registry := reg }
    let w : Watch := ⟨⟨⟨1⟩, true⟩, ⟨1⟩, some ⟨1⟩⟩
    ∃ (rest : List (Exchange Unit)) (l' : Ledger),
      Runs Ledger.Later w.pass l
        (.probed reg (reg.active.map Record.address)
          [.ok ⟨"a", "", [⟨"a", a⟩, ⟨"d", d⟩]⟩, .error (.noAnswer (place "b") ⟨1⟩)] :: rest)
        (.ok { reactivated := 1, keptByGossip := 1 }) l' ∧
      l'.registry.active.map Record.identifier = [some "a", some "b", some "c", some "e"] := by
  intro place a d reg l w
  obtain ⟨t, hrun, hfrom⟩ := runs_runWith Ledger.Later.refl
    (outsiders a (place "b") (place "c") d) (fun _ _ _ => List.length_map _) w.pass l ()
  have hok : (((runWith (outsiders a (place "b") (place "c") d) w.pass).run l).run ()).1.1 =
      .ok { reactivated := 1, keptByGossip := 1 } := by decide
  rw [hok] at hrun
  obtain ⟨o, t', rfl, -⟩ := exists_opening hrun
  obtain ⟨limit, st, hanswers⟩ := hfrom _ List.mem_cons_self
  have hround : o.round = (.probed reg (reg.active.map Record.address)
      [.ok ⟨"a", "", [⟨"a", a⟩, ⟨"d", d⟩]⟩, .error (.noAnswer (place "b") ⟨1⟩)] :
        Exchange Unit) := by
    rw [Opening.round, hanswers]
    rfl
  rw [hround] at hrun
  exact ⟨_, _, hrun, by decide⟩

/-- **Others may be active too.** After this pass three members are active that no view of an active
member lists, though one of these views lists members. -/
theorem unlisted_pass_outsiders :
    let place (name : String) : Address := ⟨"http", none, .whole name, none, none⟩
    let reg := encounter (place "a") (place "b") (place "c") (place "d")
    let l : Ledger := { Ledger.start 0 .first with registry := reg }
    let w : Watch := ⟨⟨⟨1⟩, true⟩, ⟨1⟩, some ⟨1⟩⟩
    ∃ (s : PassSummary) (answers : List (Except Failure TopologyView))
      (rest : List (Exchange Unit)) (l' : Ledger),
      reg.WellFormed ∧ w.discovery.merges = true ∧
      Runs Ledger.Later w.pass l
        (.probed reg (reg.active.map Record.address) answers :: rest) (.ok s) l' ∧
      (∃ v, Viewed (asked reg answers) v ∧ v.members ≠ []) ∧
      ∀ i ∈ ["b", "c", "e"], (∃ r ∈ l'.registry.active, r.identifier = some i) ∧
        ¬ ∃ v, Viewed (asked reg answers) v ∧ v.contains i = true := by
  intro place reg l w
  obtain ⟨rest, l', hrun, hactive⟩ := runs_pass_outsiders
  refine ⟨_, _, rest, l', ⟨by decide, by decide⟩, rfl, hrun, ?_, fun i hi => ⟨?_, ?_⟩⟩
  · exact ⟨⟨"a", "", [⟨"a", place "a"⟩, ⟨"d", place "d"⟩]⟩, ⟨_, List.mem_cons_self⟩, by simp⟩
  · have hmem : some i ∈ l'.registry.active.map Record.identifier := by
      rw [hactive]
      simp only [List.mem_cons, List.not_mem_nil, or_false] at hi ⊢
      rcases hi with rfl | rfl | rfl <;> simp
    exact List.mem_map.mp hmem
  · rw [← any_tells_iff]
    simp only [List.mem_cons, List.not_mem_nil, or_false] at hi
    rcases hi with rfl | rfl | rfl <;> decide

/-- In this pass every member that is active afterwards and that did not answer in the place of
another one while it was known is listed, or of one of the two kinds. -/
lemma active_pass_listed_outsiders :
    let place (name : String) : Address := ⟨"http", none, .whole name, none, none⟩
    let reg := encounter (place "a") (place "b") (place "c") (place "d")
    let l : Ledger := { Ledger.start 0 .first with registry := reg }
    let w : Watch := ⟨⟨⟨1⟩, true⟩, ⟨1⟩, some ⟨1⟩⟩
    ∃ (s : PassSummary) (answers : List (Except Failure TopologyView))
      (rest : List (Exchange Unit)) (l' : Ledger),
      reg.WellFormed ∧ w.discovery.merges = true ∧
      Runs Ledger.Later w.pass l
        (.probed reg (reg.active.map Record.address) answers :: rest) (.ok s) l' ∧
      (∃ v, Viewed (asked reg answers) v ∧ v.members ≠ []) ∧
      ∃ (gossips : List (Exchange Unit)) (again : List Record)
        (answers' : List (Except Failure TopologyView)),
        ∀ r ∈ l'.registry.active, ∀ i, r.identifier = some i →
          ¬ Reappears reg (again.zip answers') i →
          (∃ v, Viewed (asked reg answers) v ∧ v.contains i = true) ∨
          (∃ r f, (r, .error f) ∈ asked reg answers ∧ r.identifier = some i ∧
            f.isTimeout = true ∧ Vouched w gossips i) ∨
          (reg.contains (.identifier i) = false ∧
            ∃ r v, (r, .ok v) ∈ again.zip answers' ∧ v.identifier = i) := by
  intro place reg l w
  obtain ⟨rest, l', hrun, -⟩ := runs_pass_outsiders
  have hwell : reg.WellFormed := ⟨by decide, by decide⟩
  obtain ⟨answers, gossips, middle, again, answers', ht, -, -, -, -, hactive⟩ :=
    active_pass_listed (w := w) (l := l) hwell rfl hrun
  rw [ht] at hrun
  have hanswers := (List.cons.inj ht).1
  rw [Exchange.probed.injEq] at hanswers
  have hsaw : ∃ v, Viewed (asked reg answers) v ∧ v.members ≠ [] := by
    rw [← hanswers.2.2]
    exact ⟨⟨"a", "", [⟨"a", place "a"⟩, ⟨"d", place "d"⟩]⟩, ⟨_, List.mem_cons_self⟩, by simp⟩
  exact ⟨_, answers, _, l', hwell, rfl, hrun, hsaw, gossips, again, answers', hactive hsaw⟩

end Watch

end Roster
