import Roster.Proofs.Discovery.Displacing
import Roster.Proofs.Discovery.Run

/-!
# Members that introduce themselves

What the answers of members that may become active do to the keys of the registry. Every member
that answers is registered under the identifier that it told; and if it was asked before it had
one, it is not registered under its address any more.

* `introductions`: under which identifiers members answered, and at which addresses.
* `Introduced`: a member without an identifier answered at an address.
* `Introduces`: what becomes of the keys when these answers are taken over.
* `introduces_takeProbes`: this is what all answers do, if they are taken over at all.
-/

namespace Roster

namespace Discovery

open Activity Registry

variable {r : Record} {v : TopologyView} {report report' : ProbeReport} {a : Address}
  {reg reg' reg'' : Registry} {l l' : Ledger}
  {xs ys : List (Record × Except Failure TopologyView)}

/-- Under which identifier each member answered, and at which address. -/
def introductions (xs : List (Record × Except Failure TopologyView)) : List Listing :=
  xs.filterMap fun x =>
    match x.2 with
    | .ok v => some ⟨v.identifier, x.1.address⟩
    | .error _ => none

/-- A member without an identifier answered at an address. -/
def Introduced (xs : List (Record × Except Failure TopologyView)) (a : Address) : Prop :=
  ∃ r v, (r, .ok v) ∈ xs ∧ r.key = .address a

/-- What becomes of the keys when the answers of members that may become active are taken over:
the identifiers under which they answered are added, and the entries of those that had none are
taken out; other addresses make way for those that are new. -/
structure Introduces (xs : List (Record × Except Failure TopologyView))
    (reg reg' : Registry) : Prop where
  identifier : ∀ i, reg'.contains (.identifier i) = true ↔
    reg.contains (.identifier i) = true ∨ ∃ m ∈ introductions xs, m.identifier = i
  address : ∀ a, reg'.contains (.address a) = true ↔
    reg.contains (.address a) = true ∧ ¬ Introduced xs a ∧ ¬ Displaced reg (introductions xs) a

lemma mem_introductions (h : (r, .ok v) ∈ xs) :
    ⟨v.identifier, r.address⟩ ∈ introductions xs := List.mem_filterMap.mpr ⟨_, h, rfl⟩

lemma introductions_append : introductions (xs ++ ys) = introductions xs ++ introductions ys :=
  List.filterMap_append

lemma introduced_append_iff : Introduced (xs ++ ys) a ↔ Introduced xs a ∨ Introduced ys a := by
  simp [Introduced, or_and_right, exists_or]

lemma introduced_singleton_iff : Introduced [(r, .ok v)] a ↔ r.key = .address a := by
  simp [Introduced]

namespace Introduces

/-- A member that does not answer changes no key. -/
lemma silent (r : Record) (f : Failure) (reg : Registry) : Introduces [(r, .error f)] reg reg :=
  ⟨fun i => by simp [introductions], fun a => by simp [introductions, Introduced, Displaced]⟩

/-- Answers that are taken over later find those registered that answered before. -/
lemma trans (h : Introduces xs reg reg') (h' : Introduces ys reg' reg'') :
    Introduces (xs ++ ys) reg reg'' := by
  refine ⟨fun i => ?_, fun a => ?_⟩
  · rw [h'.identifier, h.identifier, introductions_append, or_assoc]
    simp [or_and_right, exists_or]
  · rw [h'.address, h.address, introductions_append, displaced_append_iff h.identifier,
      introduced_append_iff]
    tauto

/-- What was introduced is registered under its identifier. -/
lemma contains_identifier (h : Introduces xs reg reg') (hx : (r, .ok v) ∈ xs) :
    reg'.contains (.identifier v.identifier) = true :=
  (h.identifier _).mpr (Or.inr ⟨_, mem_introductions hx, rfl⟩)

/-- A member without an identifier that answered is not registered under its address. -/
lemma not_contains (h : Introduces xs reg reg') (hx : (r, .ok v) ∈ xs)
    (hr : r.identifier = none) : reg'.contains r.key = false := by
  have hkey : r.key = .address r.address := Record.key_eq_address_iff.mpr ⟨hr, rfl⟩
  rw [hkey, ← Bool.not_eq_true, h.address]
  exact fun hc => hc.2.1 ⟨r, v, hx, hkey⟩

end Introduces

/-- One answer, if it is taken over. -/
lemma introduces_recover (h : l.registry.WellFormed)
    (hok : (recover r v report l).1 = .ok report') :
    Introduces [(r, .ok v)] l.registry (recover r v report l).2.registry := by
  have hdisplaced : ∀ a, Displaced l.registry (introductions [(r, .ok v)]) a ↔
      r.address = a ∧ l.registry.contains (.identifier v.identifier) = false :=
    fun a => displaced_singleton_iff
  have hintroduced : ∀ i, (∃ m ∈ introductions [(r, .ok v)], m.identifier = i) ↔
      v.identifier = i := fun i => by simp [introductions]
  cases hr : r.identifier with
  | none =>
      -- Its own entry is taken out, and the one under its identifier is there.
      obtain ⟨e, -, -, -, -, hfind⟩ := recover_unresolved (v := v) report h hr
      have hkey : ∀ a, r.key = .address a ↔ r.address = a := by
        simp [Record.key_eq_address_iff, hr]
      refine ⟨fun i => ?_, fun a => ?_⟩
      · rw [hintroduced, contains_eq_isSome, hfind, contains_eq_isSome]
        by_cases hi : v.identifier = i
        · simp [hi]
        · simp [hi, Ne.symm hi]
      · rw [introduced_singleton_iff, hkey, hdisplaced, contains_eq_isSome, hfind,
          contains_eq_isSome]
        by_cases ha : r.address = a
        · simp [ha]
        · simp [ha, Ne.symm ha]
  | some id =>
      have hkey : ∀ a, r.key ≠ .address a := by
        simp [Record.key_eq_address_iff, hr]
      by_cases hid : id = v.identifier
      · -- It answered as itself, and so it is registered already.
        subst hid
        cases hc : l.registry.contains (.identifier v.identifier) with
        | false =>
            rw [recover_self_of_absent hr hc] at hok
            cases hok
        | true =>
            obtain ⟨-, now, hfind⟩ := recover_self report hr hc
            have hsame : ∀ k, (recover r v report l).2.registry.contains k =
                l.registry.contains k := by
              intro k
              rw [contains_eq_isSome, hfind, contains_eq_isSome]
              split_ifs <;> simp
            refine ⟨fun i => ?_, fun a => ?_⟩
            · rw [hintroduced, hsame]
              exact ⟨Or.inl, Or.rec id fun hi => hi ▸ hc⟩
            · rw [introduced_singleton_iff, hdisplaced, hsame, hc]
              simp [hkey]
      · -- Another one answered, and is taken over as a listed one.
        obtain ⟨-, hreg⟩ := recover_other (l := l) report hr hid
        have hmerge : Absorbs [⟨v.identifier, r.address⟩] l.registry
            (recover r v report l).2.registry := by
          rw [hreg]
          exact Absorbs.single l.now _ (some v.topologyHash)
        refine ⟨hmerge.identifier, fun a => ?_⟩
        rw [hmerge.address, introduced_singleton_iff]
        simp [hkey, introductions]

/-- All answers, if they are taken over. -/
lemma introduces_takeProbes (h : l.registry.WellFormed)
    (hok : (takeProbes xs report l).1 = .ok report') :
    Introduces xs l.registry (takeProbes xs report l).2.registry := by
  induction xs generalizing report l with
  | nil => exact ⟨fun i => by simp [takeProbes, introductions],
      fun a => by simp [takeProbes, introductions, Introduced, Displaced]⟩
  | cons x xs ih =>
      obtain ⟨r, answer⟩ := x
      cases answer with
      | error f =>
          rw [takeProbes] at hok ⊢
          exact (Introduces.silent r f _).trans (ih (l := l.note (probeFailed r f)) h hok)
      | ok v =>
          cases hres : (recover r v report l).1 with
          | error f =>
              rw [takeProbes_cons_error hres] at hok
              cases hok
          | ok report₁ =>
              rw [takeProbes_cons_ok xs hres] at hok ⊢
              have hwell := (recover_leadsTo h r v report).wellFormed h
              exact (introduces_recover h hres).trans (ih hwell hok)

end Discovery

end Roster
