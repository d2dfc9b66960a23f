import Roster.Proofs.Discovery.Probing

/-!
# Members that answer while they are listed

A member that has not told its identifier may answer while another one lists it under the
identifier that it tells, perhaps at another address. The registries are compared here that come of
the two orders in which this can be taken over.

* `answeredFirst`, `listedFirst`: what comes of the two orders.
* `outline_answeredFirst`, `outline_listedFirst`: what the entries say about their members then.
* `answer_and_listing_commute`: they say the same in either order, but for an entry without an
  identifier at the address that was listed, whose place only a member takes that is new.
-/

namespace Roster

namespace Discovery

open Registry

variable {l : Ledger} {r : Record} {v : TopologyView} {x : Address} {hash : Option String}
  {later : Instant} {k : Key}

/-- A member that may become active answers, and another one lists it later. -/
def answeredFirst (r : Record) (v : TopologyView) (x : Address) (hash : Option String)
    (later : Instant) (l : Ledger) : Except Failure ProbeReport × Ledger :=
  let answered := takeProbes [(r, .ok v)] {} l
  (answered.1, ({ answered.2 with now := later }.mergeMember v.identifier x hash).2)

/-- A member that may become active is listed by another one, and answers later. -/
def listedFirst (r : Record) (v : TopologyView) (x : Address) (hash : Option String)
    (later : Instant) (l : Ledger) : Except Failure ProbeReport × Ledger :=
  takeProbes [(r, .ok v)] {} { (l.mergeMember v.identifier x hash).2 with now := later }

/-! ### Either order -/

/-- What the entries say about their members once a member without an identifier answered. -/
lemma outline_takeProbes_singleton (h : l.registry.WellFormed) (hr : r.identifier = none) :
    (∃ report, (takeProbes [(r, .ok v)] {} l).1 = .ok report) ∧
      ∀ k, ((takeProbes [(r, .ok v)] {} l).2.registry.find? k).map Entry.outline =
        if k = .address r.address then none
        else if k = .identifier v.identifier then
          some (settled l.registry r.address v.identifier, true)
        else (l.registry.find? k).map Entry.outline := by
  obtain ⟨e, hact, -, haddress, hok, hfind⟩ := recover_unresolved (v := v) {} h hr
  rw [takeProbes_cons_ok [] hok]
  refine ⟨⟨_, rfl⟩, fun k => ?_⟩
  rw [takeProbes, hfind]
  split_ifs
  · rfl
  · rw [Option.map_some, Entry.outline, hact, haddress]
  · rfl

section Orders

variable (h : l.registry.WellFormed) (hr : r.identifier = none)

include h hr

/-- A member that answered is known when it is listed: it moves to the address at which it is
listed, and nothing makes way for it but the entry under which it was asked. -/
lemma outline_answeredFirst (k : Key) :
    ((answeredFirst r v x hash later l).2.registry.find? k).map Entry.outline =
      if k = .address r.address then none
      else if k = .identifier v.identifier then some (x, true)
      else (l.registry.find? k).map Entry.outline := by
  have hanswered := (outline_takeProbes_singleton (v := v) h hr).2
  have hactive : (takeProbes [(r, .ok v)] {} l).2.registry.isActive? (.identifier v.identifier) =
      some true := by
    rw [← map_snd_outline, hanswered]
    simp
  have hknown : ¬ (takeProbes [(r, .ok v)] {} l).2.registry.contains (.identifier v.identifier) =
      false := by
    rw [← isActive?_eq_none_iff, hactive]
    simp
  rw [answeredFirst, Ledger.registry_mergeMember, outline_mergeMember, hactive, hanswered]
  by_cases hk : k = .identifier v.identifier
  · simp [hk]
  · simp [hk, hknown]

/-- A member that is listed first may be new, and takes the place of what stands under the address
at which it is listed; where it answers does not matter any more. -/
lemma outline_listedFirst (hc : l.registry.contains r.key = true) (k : Key) :
    ((listedFirst r v x hash later l).2.registry.find? k).map Entry.outline =
      if k = .address r.address then none
      else if k = .identifier v.identifier then some (x, true)
      else if k = .address x ∧ l.registry.contains (.identifier v.identifier) = false then none
      else (l.registry.find? k).map Entry.outline := by
  have hmerged : ∀ k, (((l.mergeMember v.identifier x hash).2.registry.find? k).map
      Entry.outline) = _ := fun k => outline_mergeMember v.identifier x hash
  have hsettled : settled (l.mergeMember v.identifier x hash).2.registry r.address v.identifier =
      x := by
    -- The entry under which it is asked is still there, unless it has just made way for the member.
    unfold settled
    split_ifs with hleft
    · rw [← map_fst_outline, hmerged, if_pos rfl]
      rfl
    · rw [Record.key_eq_address_iff.mpr ⟨hr, rfl⟩] at hc
      rw [Ledger.registry_mergeMember, contains_mergeMember] at hleft
      by_contra hne
      exact hleft (Or.inr ⟨hc, fun hx => hne (Key.address.inj hx.1)⟩)
  have hwell : (l.mergeMember v.identifier x hash).2.registry.WellFormed := h.mergeMember _ _ _
  have hanswered := (outline_takeProbes_singleton (v := v)
    (l := { (l.mergeMember v.identifier x hash).2 with now := later }) hwell hr).2 k
  rw [listedFirst, hanswered, hsettled, hmerged]
  split_ifs <;> rfl

/-- **Answers and listings commute.** Let a member that has not told its identifier answer, and let
another one list it, under the identifier that it tells and at any address. In whichever order this
is taken over, all of it is taken over, and the same entries say the same about their members, at
the same addresses and with the same status. There is one exception: if the identifier was new and
is listed elsewhere than where it answered, an entry without an identifier at this other place has
gone if the member was listed first, and is what it was if the member answered first. -/
theorem answer_and_listing_commute (hc : l.registry.contains r.key = true) (v : TopologyView)
    (x : Address) (hash : Option String) (later : Instant) :
    let first := answeredFirst r v x hash later l
    let second := listedFirst r v x hash later l
    let elsewhere := l.registry.contains (.identifier v.identifier) = false ∧ x ≠ r.address
    (∃ report, first.1 = .ok report) ∧ (∃ report, second.1 = .ok report) ∧
    (∀ k, ¬ (elsewhere ∧ k = .address x) →
      (first.2.registry.find? k).map Entry.outline =
        (second.2.registry.find? k).map Entry.outline) ∧
    (elsewhere →
      (first.2.registry.find? (.address x)).map Entry.outline =
        (l.registry.find? (.address x)).map Entry.outline ∧
      second.2.registry.find? (.address x) = none) := by
  intro first second elsewhere
  have hfirst : ∀ k, (first.2.registry.find? k).map Entry.outline = _ :=
    fun k => outline_answeredFirst h hr k
  have hsecond : ∀ k, (second.2.registry.find? k).map Entry.outline = _ :=
    fun k => outline_listedFirst h hr hc k
  refine ⟨(outline_takeProbes_singleton h hr).1,
    (outline_takeProbes_singleton (h.mergeMember _ _ _) hr).1, fun k hk => ?_, fun hx => ⟨?_, ?_⟩⟩
  · rw [hfirst, hsecond]
    split_ifs with hy hi hgone
    · rfl
    · rfl
    · -- Only an entry without an identifier elsewhere could have made way.
      obtain ⟨rfl, hnew⟩ := hgone
      exact absurd ⟨⟨hnew, fun heq => hy (by rw [heq])⟩, rfl⟩ hk
    · rfl
  · rw [hfirst, if_neg (by simpa using hx.2), if_neg (by simp)]
  · rw [← Option.map_eq_none_iff, hsecond, if_neg (by simpa using hx.2), if_neg (by simp),
      if_pos ⟨rfl, hx.1⟩]

end Orders

/-- Two addresses of which nothing else is known, and a node that answers at the first one and is
listed at the second one: the entries are the same in either order but for the second address. -/
lemma answer_and_listing_commute_pair :
    let place (name : String) : Address := ⟨"http", none, .whole name, none, none⟩
    let l := (Ledger.start 0 .first).add [.unresolved (place "a"), .unresolved (place "b")]
    let r := Record.unresolved (place "a")
    let first := answeredFirst r ⟨"i", "h", []⟩ (place "b") none 1 l
    let second := listedFirst r ⟨"i", "h", []⟩ (place "b") none 1 l
    l.registry.WellFormed ∧ r.identifier = none ∧ l.registry.contains r.key = true ∧
    (∀ k, k ≠ .address (place "b") → (first.2.registry.find? k).map Entry.outline =
      (second.2.registry.find? k).map Entry.outline) ∧
    (first.2.registry.find? (.address (place "b"))).map Entry.outline = some (place "b", false) ∧
    second.2.registry.find? (.address (place "b")) = none := by
  intro place l r first second
  have h : l.registry.WellFormed := WellFormed.empty.add _
  have hc : l.registry.contains r.key = true := by decide
  obtain ⟨-, -, hsame, hgone⟩ :=
    answer_and_listing_commute h rfl hc ⟨"i", "h", []⟩ (place "b") none 1
  obtain ⟨hstays, hleaves⟩ := hgone ⟨by decide, by decide⟩
  exact ⟨h, rfl, hc, fun k hk => hsame k fun hx => hk hx.2, hstays, hleaves⟩

/-- **An entry that is left behind.** The order shows if the identifier is new and nothing but the
address is known of another member where it is listed. -/
theorem left_behind_if_answered_first :
    let place (name : String) : Address := ⟨"http", none, .whole name, none, none⟩
    let l := (Ledger.start 0 .first).add [.unresolved (place "a"), .unresolved (place "b")]
    let r := Record.unresolved (place "a")
    l.registry.WellFormed ∧ r ∈ l.registry.inactive ∧ r.identifier = none ∧
    ¬ ∀ k, ((answeredFirst r ⟨"i", "h", []⟩ (place "b") none 1 l).2.registry.find? k).map
        Entry.outline =
      ((listedFirst r ⟨"i", "h", []⟩ (place "b") none 1 l).2.registry.find? k).map
        Entry.outline := by
  intro place l r
  exact ⟨WellFormed.empty.add _, by decide, rfl, fun hall =>
    absurd (hall (.address (place "b"))) (by decide)⟩

end Discovery

end Roster
