import Mathlib.Algebra.Order.Floor.Div
import Mathlib.Data.Int.CardIntervalMod
import Roster.Proofs.Pool.Safety

/-!
# Whose turn it is

One selector answers calls of two kinds, one after the other, for lists of any lengths: which member
to ask, and in which order to ask all of them. Here it is told at which place of the list each
answer starts. In turns, the place is the number of turns taken before, modulo the length of the
list; so of calls for one list each place gets its share, wherever the first one of them starts.

* `Selector.Call`, `Selector.after`: the calls, and what they leave of a selector.
* `Selector.places`: the places at which the answers to calls start.
* `order_of_place`, `select?_of_place`: the answer that starts at a place.
* `turns_after`: how many turns were taken, by induction on the calls.
* `count_places`: how often a place is started at, which comes to counting a residue.
* `turns_are_fair`: what every sequence of calls comes to.
-/

namespace Roster

namespace Selector

/-- What a selector may be asked, with the number that it draws by chance and the members. -/
inductive Call
  /-- Which member to ask. -/
  | select (drawn : Nat) (nodes : List Record)
  /-- In which order to ask the members. -/
  | order (drawn : Nat) (nodes : List Record)

/-- The number that is drawn for a call. -/
def Call.drawn : Call → Nat
  | select drawn _ | order drawn _ => drawn

/-- The members that a call is about. -/
def Call.nodes : Call → List Record
  | select _ nodes | order _ nodes => nodes

/-- Whether there is anybody to ask. -/
def Call.hasNodes (c : Call) : Bool := !c.nodes.isEmpty

/-- What a call leaves of a selector. -/
def serve (s : Selector) : Call → Selector
  | .select drawn nodes => (s.select? drawn nodes).2
  | .order drawn nodes => (s.order drawn nodes).2

/-- What calls leave of a selector. -/
def after (s : Selector) (calls : List Call) : Selector := calls.foldl serve s

/-- The place at which the answer to a call starts. -/
def place? (s : Selector) (c : Call) : Option Nat := (s.start? c.drawn c.nodes.length).1

/-- The places at which the answers to calls start. -/
def places : Selector → List Call → List (Option Nat)
  | _, [] => []
  | s, c :: calls => s.place? c :: (s.serve c).places calls

variable {s : Selector} {c : Call} {calls : List Call} {drawn i m n : Nat} {nodes : List Record}

/-! ### One call -/

@[simp]
lemma snd_select? : (s.select? drawn nodes).2 = (s.start? drawn nodes.length).2 := rfl

@[simp]
lemma snd_order : (s.order drawn nodes).2 = (s.start? drawn nodes.length).2 := by
  unfold order
  split <;> next h => rw [h]

/-- Calls of both kinds leave the same. -/
lemma serve_eq : s.serve c = (s.start? c.drawn c.nodes.length).2 := by
  cases c <;> simp [serve, Call.drawn, Call.nodes]

lemma select?_of_place (h : (s.start? drawn nodes.length).1 = some i) :
    (s.select? drawn nodes).1 = nodes[i]? := by
  simp [select?, h]

lemma order_of_place (h : (s.start? drawn nodes.length).1 = some i) :
    (s.order drawn nodes).1 = nodes.rotate i := by
  unfold order
  split
  · next h' => simp [h'] at h
  · next j s' h' =>
      obtain rfl : j = i := by simpa [h'] using h
      exact rotateLeft_eq_rotate nodes j

/-- Whoever there is to ask, the answer starts somewhere. -/
lemma exists_place (s : Selector) (drawn : Nat) (hn : 0 < n) :
    ∃ i < n, (s.start? drawn n).1 = some i := by
  cases hi : (s.start? drawn n).1 with
  | some i => exact ⟨i, start?_lt hi, rfl⟩
  | none =>
      have hne : n ≠ 0 := by omega
      cases hs : s.strategy <;> simp [start?, hne, hs] at hi

/-- The first one in the order is the one that is selected. -/
lemma head?_order (s : Selector) (drawn : Nat) (nodes : List Record) :
    (s.order drawn nodes).1.head? = (s.select? drawn nodes).1 := by
  cases nodes with
  | nil => rfl
  | cons r rs =>
      obtain ⟨i, hlt, hi⟩ :=
        s.exists_place drawn (List.length_pos_of_ne_nil (List.cons_ne_nil r rs))
      rw [order_of_place hi, select?_of_place hi, List.head?_rotate hlt]

lemma strategy_start? : (s.start? drawn n).2.strategy = s.strategy := by
  unfold start?
  split_ifs
  · rfl
  · split <;> simp_all

/-! ### Turns -/

@[simp]
lemma strategy_serve : (s.serve c).strategy = s.strategy := by
  rw [serve_eq, strategy_start?]

@[simp]
lemma strategy_after : (s.after calls).strategy = s.strategy := by
  induction calls generalizing s with
  | nil => rfl
  | cons c calls ih => exact ih.trans strategy_serve

/-- A call takes a turn if there is anybody to ask. -/
lemma turns_serve (hs : s.strategy = .roundRobin) :
    (s.serve c).turns = s.turns + if c.hasNodes then 1 else 0 := by
  rw [serve_eq]
  cases hnodes : c.nodes with
  | nil => simp [start?, Call.hasNodes, hnodes]
  | cons r rs => simp [start?, Call.hasNodes, hnodes, hs]

/-- The turns that were taken are the calls for which there was anybody to ask, until the count
starts again. -/
lemma turns_after (hs : s.strategy = .roundRobin) (calls : List Call) :
    (s.after calls).turns = s.turns + UInt64.ofNat (calls.countP Call.hasNodes) := by
  induction calls generalizing s with
  | nil => simp [after]
  | cons c calls ih =>
      have hrest : (s.after (c :: calls)).turns =
          (s.serve c).turns + UInt64.ofNat (calls.countP Call.hasNodes) :=
        ih (strategy_serve.trans hs)
      rw [hrest, turns_serve hs, List.countP_cons]
      cases c.hasNodes with
      | true => simp [UInt64.add_assoc, UInt64.add_comm]
      | false => simp

/-- Of a new selector, the count is the number of calls as long as it fits. -/
lemma turns_after_new (h : calls.countP Call.hasNodes < 2 ^ 64) :
    ((new .roundRobin).after calls).turns.toNat = calls.countP Call.hasNodes := by
  rw [turns_after rfl calls]
  simpa [new] using Nat.mod_eq_of_lt h

/-- In turns, an answer starts at the place whose turn it is. -/
lemma start?_of_turns (hs : s.strategy = .roundRobin) (hm : s.turns.toNat = m) (hn : 0 < n)
    (drawn : Nat) : (s.start? drawn n).1 = some (m % n) := by
  have hne : n ≠ 0 := by omega
  simp [start?, hne, hs, hm]

/-! ### Shares -/

/-- Calls that ask for members of one list, in turns, start one place further on each time. -/
lemma places_of_turns (hs : s.strategy = .roundRobin) (hm : s.turns.toNat = m)
    (hne : nodes ≠ []) (hcalls : ∀ c ∈ calls, c.nodes = nodes) (hfew : m + calls.length ≤ 2 ^ 64) :
    s.places calls =
      (List.range calls.length).map fun j => some ((m + j) % nodes.length) := by
  induction calls generalizing s m with
  | nil => rfl
  | cons c calls ih =>
      obtain ⟨hc, hcalls⟩ := List.forall_mem_cons.mp hcalls
      rw [List.length_cons] at hfew
      have hplace : s.place? c = some (m % nodes.length) := by
        rw [place?, hc]
        exact start?_of_turns hs hm (List.length_pos_of_ne_nil hne) _
      rw [places, hplace, List.length_cons, List.range_succ_eq_map, List.map_cons, List.map_map]
      refine congrArg₂ List.cons rfl ?_
      cases calls with
      | nil => rfl
      | cons c' calls =>
          -- There is another call, so the count has not started again.
          have hturns : (s.serve c).turns.toNat = m + 1 := by
            have hnodes : c.hasNodes = true := by simp [Call.hasNodes, hc, hne]
            rw [turns_serve hs, hnodes, if_pos rfl, UInt64.toNat_add, hm]
            rw [List.length_cons] at hfew
            exact Nat.mod_eq_of_lt (by simp; omega)
          rw [ih (strategy_serve.trans hs) hturns hcalls (by omega)]
          refine List.map_congr_left fun j _ => ?_
          rw [Function.comp_apply, Nat.succ_eq_add_one, Nat.add_assoc, Nat.add_comm 1 j]

/-- How often a residue occurs among numbers that follow each other. -/
lemma count_residue (m k : Nat) (hi : i < n) :
    k.count (fun j => (m + j) % n = i) = k / n ∨ k.count (fun j => (m + j) % n = i) = k ⌈/⌉ n := by
  have hn : 0 < n := by omega
  -- Counted from the first number on, the residue is this one.
  let v := i + (n - m % n)
  have hshift : ∀ j, (m + j) % n = i ↔ j ≡ v [MOD n] := by
    intro j
    have hm : m % n < n := Nat.mod_lt m hn
    have hadd : m + v ≡ i [MOD n] := by
      have hmv : m + v = n * (m / n + 1) + i := by
        have hdiv := Nat.div_add_mod m n
        rw [Nat.mul_add, Nat.mul_one]
        omega
      rw [hmv, Nat.ModEq, Nat.mul_add_mod]
    calc (m + j) % n = i ↔ m + j ≡ i [MOD n] := by rw [Nat.ModEq, Nat.mod_eq_of_lt hi]
      _ ↔ m + j ≡ m + v [MOD n] := ⟨fun h => h.trans hadd.symm, fun h => h.trans hadd⟩
      _ ↔ j ≡ v [MOD n] := ⟨Nat.ModEq.add_left_cancel' m, Nat.ModEq.add_left m⟩
  have hcount : k.count (fun j => (m + j) % n = i) = k / n + if v % n < k % n then 1 else 0 := by
    rw [← Nat.count_modEq_card k hn v]
    exact congrArg (fun p => List.countP p (List.range k)) (funext fun j => by simp only [hshift])
  rw [hcount]
  split_ifs with hlt
  · right
    have hdiv := Nat.div_add_mod k n
    have hmod : k % n < n := Nat.mod_lt k hn
    rw [Nat.ceilDiv_eq_add_pred_div]
    refine (Nat.div_eq_of_lt_le ?_ ?_).symm
    · rw [Nat.add_mul, Nat.one_mul, Nat.mul_comm]
      omega
    · rw [Nat.add_mul, Nat.add_mul, Nat.one_mul, Nat.mul_comm]
      omega
  · exact Or.inl rfl

/-- Of calls for members of one list, in turns, each place gets its share. -/
lemma count_places (hs : s.strategy = .roundRobin) (hm : s.turns.toNat = m) (hne : nodes ≠ [])
    (hcalls : ∀ c ∈ calls, c.nodes = nodes) (hfew : m + calls.length ≤ 2 ^ 64)
    (hi : i < nodes.length) :
    (s.places calls).count (some i) = calls.length / nodes.length ∨
      (s.places calls).count (some i) = calls.length ⌈/⌉ nodes.length := by
  have hcount : (s.places calls).count (some i) =
      calls.length.count fun j => (m + j) % nodes.length = i := by
    rw [places_of_turns hs hm hne hcalls hfew, List.count_eq_countP, List.countP_map, Nat.count]
    refine List.countP_congr fun j _ => ?_
    simp
  rw [hcount]
  exact count_residue m calls.length hi

/-- **Turns.** Take a selector that has answered any calls of both kinds, for lists of any lengths.

* Whatever it is asked next, the order is a rotation of the list, the first one in it is the one
  that would be selected, and both kinds of calls leave the same selector.
* If there is nobody to ask, there is no answer, and no turn is taken.
* Otherwise the answer starts at a place of the list.
* In turns, this place is the number of calls so far for which there was anybody to ask, modulo the
  length of the list, as long as there were fewer than `2 ^ 64` of them.
* So of any number of further calls for one list, each place gets its share, rounded down or up.
* A selector that takes the first one keeps the order.
* By chance, every place may be drawn. -/
theorem turns_are_fair (strategy : Strategy) (calls : List Call) :
    let s := (new strategy).after calls
    let m := calls.countP Call.hasNodes
    (∀ drawn nodes, (s.order drawn nodes).1 ~r nodes ∧
      (s.order drawn nodes).1.head? = (s.select? drawn nodes).1 ∧
      (s.order drawn nodes).2 = (s.select? drawn nodes).2) ∧
    (∀ drawn, s.select? drawn [] = (none, s) ∧ s.order drawn [] = ([], s)) ∧
    (∀ drawn nodes, nodes ≠ [] → ∃ (i : Nat) (hi : i < nodes.length),
      (s.start? drawn nodes.length).1 = some i ∧ (s.select? drawn nodes).1 = some nodes[i] ∧
      (s.order drawn nodes).1 = nodes.rotate i) ∧
    (strategy = .roundRobin → m < 2 ^ 64 → ∀ drawn (nodes : List Record), nodes ≠ [] →
      (s.start? drawn nodes.length).1 = some (m % nodes.length)) ∧
    (strategy = .roundRobin → ∀ nodes window, nodes ≠ [] → (∀ c ∈ window, c.nodes = nodes) →
      m + window.length ≤ 2 ^ 64 → ∀ i < nodes.length,
        (s.places window).count (some i) = window.length / nodes.length ∨
        (s.places window).count (some i) = window.length ⌈/⌉ nodes.length) ∧
    (strategy = .first → ∀ drawn nodes, (s.order drawn nodes).1 = nodes) ∧
    (strategy = .random → ∀ (nodes : List Record), ∀ i < nodes.length,
      ∃ drawn, (s.start? drawn nodes.length).1 = some i) := by
  intro s m
  have hs : s.strategy = strategy := strategy_after
  refine ⟨fun drawn nodes => ⟨order_isRotated s drawn nodes, head?_order s drawn nodes, ?_⟩,
    fun drawn => ⟨rfl, rfl⟩, fun drawn nodes hne => ?_, ?_, ?_, ?_, ?_⟩
  · rw [snd_order, snd_select?]
  · obtain ⟨i, hi, hplace⟩ := s.exists_place drawn (List.length_pos_of_ne_nil hne)
    refine ⟨i, hi, hplace, ?_, order_of_place hplace⟩
    rw [select?_of_place hplace, List.getElem?_eq_getElem hi]
  · rintro rfl hfew drawn nodes hne
    exact start?_of_turns hs (turns_after_new hfew) (List.length_pos_of_ne_nil hne) drawn
  · rintro rfl nodes window hne hwindow hfew i hi
    cases window with
    | nil => exact Or.inl (by simp [places])
    | cons c window =>
        -- There is a call, so the count has not started again.
        have hm : m < 2 ^ 64 := by
          rw [List.length_cons] at hfew
          omega
        exact count_places hs (turns_after_new hm) hne hwindow hfew hi
  · rintro rfl drawn nodes
    cases nodes with
    | nil => rfl
    | cons r rs =>
        have hplace : (s.start? drawn (r :: rs).length).1 = some 0 := by simp [start?, hs]
        rw [order_of_place hplace, List.rotate_zero]
  · rintro rfl nodes i hi
    have hne : nodes.length ≠ 0 := by omega
    exact ⟨i, by simp [start?, hs, hne, Nat.mod_eq_of_lt hi]⟩

example (a b c : Record) : (((new .roundRobin).after [.select 0 [a, b, c], .order 0 [],
    .order 0 [a, b]]).order 0 [a, b, c]).1 = [c, a, b] := rfl

end Selector

end Roster
