import Roster.Proofs.Discovery.Counting
import Roster.Proofs.Discovery.Homes
import Roster.Proofs.Discovery.Run

/-!
# Where members are found

What a search comes to that starts from some addresses, if what a node answers depends on nothing
but the address at which it is asked. Addresses may be named repeatedly, and nodes may answer at
several of them.

* `Started`: the registry after the answers at some of the addresses were taken over.
* `bootstrap_outcome`: how a search ends, and which members are active and inactive then.
* `bootstrap_eraseDups`: what becomes of it if no address is named twice.
-/

namespace Roster

namespace Discovery

open Activity Registry

variable {τ : Type} {d : Discovery} {f : Address → Except Failure TopologyView}
  {seeds p as : List Address} {a : Address} {i : String} {l l' : Ledger} {now : Instant}

/-! ### The addresses to start from -/

/-- The addresses to start from are entered once each, in the order in which they are first
named. -/
lemma entries_add_seeds (now : Instant) (seeds : List Address) :
    (Registry.empty.add now (seeds.map Record.unresolved)).entries =
      seeds.eraseDups.map fun a => .fresh (.unresolved a) false now := by
  induction seeds using List.reverseRecOn with
  | nil => rfl
  | append_singleton seeds a ih =>
      have hadd : Registry.empty.add now ((seeds ++ [a]).map Record.unresolved) =
          (Registry.empty.add now (seeds.map Record.unresolved)).addOne now (.unresolved a) := by
        simp [Registry.add]
      have hc : (Registry.empty.add now (seeds.map Record.unresolved)).contains (.address a) =
          decide (a ∈ seeds) := by
        rw [contains_add]
        simp [Registry.contains, Function.comp_def]
      rw [hadd, addOne, Record.key_unresolved, hc, eraseDups_concat]
      by_cases ha : a ∈ seeds
      · -- The entry takes the record over that it has already.
        rw [if_pos (by simpa using ha), if_pos ha, Registry.modify, ih, List.map_map]
        refine List.map_congr_left fun b _ => ?_
        rw [Function.comp_apply]
        split_ifs with hb
        · obtain rfl : b = a := by simpa [Entry.fresh] using hb
          rfl
        · rfl
      · rw [if_neg (by simpa using ha), if_neg ha, entries_push, ih, List.map_append]
        rfl

/-- The entry under which an address to start from is entered. -/
lemma find?_add_seeds (now : Instant) (seeds : List Address) (a : Address) :
    (Registry.empty.add now (seeds.map Record.unresolved)).find? (.address a) =
      if a ∈ seeds then some (.fresh (.unresolved a) false now) else none := by
  have h : (Registry.empty.add now (seeds.map Record.unresolved)).WellFormed :=
    WellFormed.empty.add _
  split_ifs with ha
  · rw [h.find?_iff, entries_add_seeds]
    exact ⟨List.mem_map_of_mem (List.mem_eraseDups.mpr ha), rfl⟩
  · rw [find?_eq_none_iff, contains_add]
    simpa [Registry.contains, Function.comp_def] using ha

/-! ### Taking the answers over -/

/-- The registry once the answers at some of the addresses to start from were taken over: an address
is left until a node answers there, and a member is active at its home. -/
structure Started (f : Address → Except Failure TopologyView) (now : Instant)
    (seeds p : List Address) (reg : Registry) : Prop where
  wellFormed : reg.WellFormed
  address : ∀ a, reg.find? (.address a) =
    if a ∈ seeds ∧ ¬ (a ∈ p ∧ (f a).isOk = true) then some (.fresh (.unresolved a) false now)
    else none
  identifier : ∀ i, (reg.find? (.identifier i)).map Entry.outline = (home? f p i).map (·, true)

namespace Started

lemma start (f : Address → Except Failure TopologyView) (now : Instant) (seeds : List Address) :
    Started f now seeds [] (Registry.empty.add now (seeds.map Record.unresolved)) := by
  refine ⟨WellFormed.empty.add _, fun a => ?_, fun i => ?_⟩
  · simpa using find?_add_seeds now seeds a
  · have hnone : (Registry.empty.add now (seeds.map Record.unresolved)).find? (.identifier i) =
        none := by
      rw [find?_eq_none_iff, contains_add]
      simp [Registry.contains, Function.comp_def]
    rw [hnone]
    rfl

lemma contains_address (h : Started f now seeds p l.registry) (ha : a ∈ seeds)
    (hok : (f a).isOk = true) : l.registry.contains (.address a) = true ↔ a ∉ p := by
  rw [contains_eq_isSome, h.address]
  by_cases hp : a ∈ p <;> simp [ha, hok, hp]

lemma address_get? (h : Started f now seeds p l.registry) (i : String) :
    (l.registry.get? i).map Record.address = home? f p i := by
  rw [← map_fst_outline, h.identifier, Option.map_map]
  exact Option.map_id'

/-- An address at which no node answers is left. -/
lemma silent (h : Started f now seeds p l.registry) {e : Failure} (ha : f a = .error e) :
    Started f now seeds (p ++ [a]) l.registry := by
  have hnot : (f a).isOk ≠ true := by
    rw [ha]
    exact Bool.false_ne_true
  refine ⟨h.wellFormed, fun b => ?_, fun i => ?_⟩
  · have hsame : (b ∈ p ++ [a] ∧ (f b).isOk = true) ↔ b ∈ p ∧ (f b).isOk = true := by
      rw [List.mem_append, List.mem_singleton, or_and_right, or_iff_left]
      rintro ⟨rfl, hok⟩
      exact hnot hok
    simp only [hsame, h.address b]
  · have hn : names f i a = false := by rw [names, ha]
    rw [h.identifier, home?_concat, hn, if_neg Bool.false_ne_true]

/-- A member that answers at an address is registered where it is settled. -/
lemma recover (h : Started f now seeds p l.registry) (ha : a ∈ seeds) {v : TopologyView}
    (hv : f a = .ok v) (report : ProbeReport) :
    Started f now seeds (p ++ [a]) (recover (.unresolved a) v report l).2.registry := by
  have hok : (f a).isOk = true := by
    rw [hv]
    rfl
  obtain ⟨e, hact, -, haddress, -, hfind⟩ :=
    recover_unresolved (r := .unresolved a) (v := v) report h.wellFormed rfl
  have haddress : e.record.address = settled l.registry a v.identifier := haddress
  have hfind : ∀ k, (Discovery.recover (.unresolved a) v report l).2.registry.find? k =
      if k = .address a then none
      else if k = .identifier v.identifier then some e else l.registry.find? k := hfind
  refine ⟨(recover_leadsTo h.wellFormed _ v report).wellFormed h.wellFormed, fun b => ?_,
    fun i => ?_⟩
  · rw [hfind, h.address]
    by_cases hb : b = a
    · simp [hb, hok]
    · simp [hb]
  · rw [hfind, if_neg (by simp), home?_concat, names_of_ok hv]
    by_cases hi : i = v.identifier
    · subst hi
      rw [if_pos rfl, if_pos (by simp), Option.map_some, Entry.outline, hact, haddress, settled]
      -- The address is repeated exactly if nothing stands under it any more.
      by_cases hp : a ∈ p
      · rw [if_pos hp, if_neg fun hc => (h.contains_address ha hok).mp hc hp]
        rfl
      · rw [if_neg hp, if_pos ((h.contains_address ha hok).mpr hp), h.address_get?]
        cases home? f p v.identifier <;> rfl
    · rw [if_neg (by simpa using hi), if_neg (by simpa using Ne.symm hi)]
      exact h.identifier i

/-- All answers at further addresses. -/
lemma takeProbes (h : Started f now seeds p l.registry) (has : as ⊆ seeds)
    (report : ProbeReport) :
    Started f now seeds (p ++ as)
      (takeProbes ((as.map Record.unresolved).zip (as.map f)) report l).2.registry := by
  induction as generalizing p report l with
  | nil =>
      rw [List.append_nil]
      exact h
  | cons a as ih =>
      obtain ⟨ha, has⟩ := List.cons_subset.mp has
      have hstep : ∀ reg, Started f now seeds ((p ++ [a]) ++ as) reg →
          Started f now seeds (p ++ a :: as) reg := by
        intro reg hreg
        rwa [List.append_assoc] at hreg
      rw [List.map_cons, List.map_cons, List.zip_cons_cons]
      cases hv : f a with
      | error e =>
          rw [Discovery.takeProbes]
          exact hstep _ (ih (l := l.note (probeFailed (.unresolved a) e)) (h.silent hv) has _)
      | ok v =>
          obtain ⟨e, -, -, -, hok, -⟩ :=
            recover_unresolved (r := .unresolved a) (v := v) report h.wellFormed rfl
          rw [takeProbes_cons_ok _ hok]
          exact hstep _ (ih (h.recover ha hv report) has _)

/-! ### Who is registered in the end -/

variable {reg : Registry}

/-- A member is registered if it answered at any of the addresses, and is active then. -/
lemma isActive?_identifier (h : Started f now seeds seeds reg) (i : String) :
    reg.isActive? (.identifier i) = if ∃ a ∈ seeds, names f i a = true then some true else none := by
  rw [← map_snd_outline, h.identifier, Option.map_map]
  simp only [← isSome_home?_iff]
  cases home? f seeds i <;> rfl

/-- An address is registered if no node answered there, and is inactive then. -/
lemma isActive?_address (h : Started f now seeds seeds reg) (a : Address) :
    reg.isActive? (.address a) =
      if a ∈ seeds ∧ (f a).isOk = false then some false else none := by
  rw [isActive?, h.address]
  by_cases ha : a ∈ seeds
  · cases (f a).isOk <;> simp [ha, Entry.fresh]
  · simp [ha]

/-- The active members: each of them answered, and at the address under which it is registered. -/
lemma mem_active (h : Started f now seeds seeds reg) {r : Record} (hr : r ∈ reg.active) :
    ∃ i, r.identifier = some i ∧ r.address ∈ seeds ∧ names f i r.address = true := by
  obtain ⟨e, he, hact, rfl⟩ := h.wellFormed.mem_withStatus_iff.mp hr
  cases hid : e.record.identifier with
  | none =>
      rw [Record.key_eq_address_iff.mpr ⟨hid, rfl⟩, h.address] at he
      split_ifs at he
      rw [← Option.some.inj he] at hact
      exact absurd hact (by simp [Entry.fresh])
  | some i =>
      rw [Record.key_eq_identifier_iff.mpr hid] at he
      have hi := h.identifier i
      rw [he, Option.map_some, eq_comm, Option.map_eq_some_iff] at hi
      obtain ⟨a, ha, houtline⟩ := hi
      obtain rfl : a = e.record.address := congrArg Prod.fst houtline
      exact ⟨i, rfl, names_of_home? ha⟩

/-- The inactive members are the addresses at which no node answered. -/
lemma mem_inactive_iff (h : Started f now seeds seeds reg) {r : Record} :
    r ∈ reg.inactive ↔ ∃ a ∈ seeds, (f a).isOk = false ∧ r = .unresolved a := by
  rw [inactive, h.wellFormed.mem_withStatus_iff]
  constructor
  · rintro ⟨e, he, hact, rfl⟩
    cases hid : e.record.identifier with
    | none =>
        rw [Record.key_eq_address_iff.mpr ⟨hid, rfl⟩, h.address] at he
        split_ifs at he with ha
        refine ⟨e.record.address, ha.1, by simpa [ha.1] using ha.2, ?_⟩
        exact (congrArg Entry.record (Option.some.inj he)).symm
    | some i =>
        rw [Record.key_eq_identifier_iff.mpr hid] at he
        have hstatus := h.isActive?_identifier i
        rw [isActive?, he, Option.map_some, hact] at hstatus
        split_ifs at hstatus
        exact absurd hstatus (by simp)
  · rintro ⟨a, ha, hsilent, rfl⟩
    refine ⟨.fresh (.unresolved a) false now, ?_, rfl, rfl⟩
    rw [Record.key_unresolved, h.address, if_pos ⟨ha, by simp [hsilent]⟩]

end Started

/-- If no node answers, nothing changes. -/
lemma registry_takeProbes_of_silent {xs : List (Record × Except Failure TopologyView)}
    (h : ∀ x ∈ xs, x.2.isOk = false) (report : ProbeReport) (l : Ledger) :
    (takeProbes xs report l).2.registry = l.registry := by
  induction xs generalizing report l with
  | nil => rfl
  | cons x xs ih =>
      obtain ⟨hx, hrest⟩ := List.forall_mem_cons.mp h
      obtain ⟨r, answer⟩ := x
      cases answer with
      | error e => exact ih hrest _ (l.note (probeFailed r e))
      | ok v => exact absurd hx (by simp [Except.isOk, Except.toBool])

/-! ### The whole search -/

variable {t : List (Exchange τ)} {r : Except Failure Nat}

/-- In the exchanges of a run, what a node answers depends on nothing but its address. -/
def AnsweredBy (f : Address → Except Failure TopologyView) (t : List (Exchange τ)) : Prop :=
  ∀ reg as answers, .probed reg as answers ∈ t → answers = as.map f

lemma runs_bootstrap_nil :
    Runs Ledger.Later (d.bootstrap [] : Activity τ (Except Failure Nat)) l t r l' ↔
      t = [] ∧ r = .error noSeeds ∧ l' = l := runs_done_iff

/-- How a search ends that starts from some addresses: all of them are asked, in one round. -/
lemma runs_bootstrap_answeredBy (hempty : l.registry = .empty) (hne : seeds ≠ [])
    (hrun : Runs Ledger.Later (d.bootstrap seeds : Activity τ (Except Failure Nat)) l t r l')
    (hanswers : AnsweredBy f t) :
    t = [.probed (l.add (seeds.map Record.unresolved)).registry seeds (seeds.map f)] ∧
      r = (if ∀ a ∈ seeds, (f a).isOk = false then .error (.noReachableSeeds seeds.length)
        else .ok (seeds.countP fun a => (f a).isOk)) ∧
      Started f l.now seeds seeds l'.registry ∧
      ((∀ a ∈ seeds, (f a).isOk = false) →
        l'.registry = Registry.empty.add l.now (seeds.map Record.unresolved)) := by
  rw [← bind_done (d.bootstrap seeds), runs_bootstrap_bind_iff hne] at hrun
  obtain ⟨answers, l₁, t', -, hwait, rfl, hrun⟩ := hrun
  obtain ⟨rfl, rfl, rfl⟩ := runs_done_iff.mp hrun
  obtain rfl : answers = seeds.map f := hanswers _ _ _ List.mem_cons_self
  have hl₁ : l₁.registry = Registry.empty.add l.now (seeds.map Record.unresolved) := by
    rw [hwait.registry_eq, Ledger.registry_add, hempty]
  have hstart : Started f l.now seeds [] l₁.registry := hl₁ ▸ Started.start f l.now seeds
  have hzip : (seeds.map Record.unresolved).zip (seeds.map f) =
      seeds.map fun a => (.unresolved a, f a) := by
    rw [List.zip_map']
  have hasked : ∀ x ∈ (seeds.map Record.unresolved).zip (seeds.map f),
      ∃ a ∈ seeds, x = (.unresolved a, f a) := by
    rw [hzip]
    intro x hx
    obtain ⟨a, ha, rfl⟩ := List.mem_map.mp hx
    exact ⟨a, ha, rfl⟩
  obtain ⟨report, hok, hcount⟩ := recovered_takeProbes {} hstart.wellFormed fun x hx => by
    obtain ⟨a, -, rfl⟩ := hasked x hx
    rfl
  have hrecovered : report.recovered.length = seeds.countP fun a => (f a).isOk := by
    rw [hcount, hzip, List.countP_map]
    exact Nat.zero_add _
  have hnobody : report.recovered = [] ↔ ∀ a ∈ seeds, (f a).isOk = false := by
    rw [← List.length_eq_zero_iff, hrecovered, List.countP_eq_zero]
    simp
  have hresult := bootstrapResult_ok seeds.length report
    (takeProbes ((seeds.map Record.unresolved).zip (seeds.map f)) {} l₁).2
  rw [← hok] at hresult
  refine ⟨rfl, ?_, ?_, fun hsilent => ?_⟩
  · rw [hresult.1, hrecovered]
    simp only [hnobody]
  · rw [hresult.2]
    exact hstart.takeProbes (List.Subset.refl _) {}
  · rw [hresult.2, ← hl₁]
    refine registry_takeProbes_of_silent (fun x hx => ?_) {} l₁
    obtain ⟨a, ha, rfl⟩ := hasked x hx
    exact hsilent a ha

/-- Whatever the addresses to start from are, the answers at all of them are taken over. -/
lemma started_of_runs (hempty : l.registry = .empty)
    (hrun : Runs Ledger.Later (d.bootstrap seeds : Activity τ (Except Failure Nat)) l t r l')
    (hanswers : AnsweredBy f t) : Started f l.now seeds seeds l'.registry := by
  cases seeds with
  | nil =>
      obtain ⟨-, -, rfl⟩ := runs_bootstrap_nil.mp hrun
      rw [hempty]
      exact Started.start f _ []
  | cons a seeds =>
      exact (runs_bootstrap_answeredBy hempty (List.cons_ne_nil a seeds) hrun hanswers).2.2.1

/-- Who is registered once members were searched from some addresses: one active member under each
identifier that was answered, at an address at which it answered, and the addresses at which no node
answered. -/
structure Found (f : Address → Except Failure TopologyView) (seeds : List Address)
    (reg : Registry) : Prop where
  active_nodup : (reg.active.map Record.identifier).Nodup
  active_iff : ∀ i, (∃ r ∈ reg.active, r.identifier = some i) ↔ ∃ a ∈ seeds, names f i a = true
  active_answered : ∀ r ∈ reg.active, ∃ i, r.identifier = some i ∧ r.address ∈ seeds ∧
    names f i r.address = true
  inactive_nodup : reg.inactive.Nodup
  inactive_iff : ∀ r, r ∈ reg.inactive ↔ ∃ a ∈ seeds, (f a).isOk = false ∧ r = .unresolved a

lemma Started.found {reg : Registry} (h : Started f now seeds seeds reg) : Found f seeds reg := by
  refine ⟨?_, fun i => ?_, fun r hr => h.mem_active hr, ?_, fun r => h.mem_inactive_iff⟩
  · refine List.Nodup.map_on (fun r hr s hs hid => ?_) (h.wellFormed.keys_withStatus_nodup true).of_map
    refine List.inj_on_of_nodup_map (h.wellFormed.keys_withStatus_nodup true) hr hs ?_
    obtain ⟨i, hi, -⟩ := h.mem_active hr
    rw [Record.key_eq_identifier_iff.mpr hi, Record.key_eq_identifier_iff.mpr (hid ▸ hi)]
  · have hactive : reg.isActive? (.identifier i) = some true ↔
        ∃ r ∈ reg.active, r.identifier = some i := h.wellFormed.isActive?_identifier_iff
    rw [← hactive, h.isActive?_identifier]
    split_ifs with hnamed <;> simp [hnamed]
  · exact (h.wellFormed.keys_withStatus_nodup false).of_map

/-- **What a search from some addresses comes to.** Let nobody else change the registry, which is
empty, and let what a node answers depend on nothing but the address at which it is asked; several
addresses may be those of one node, and addresses may be named repeatedly.

* Without addresses, and only then, nobody is asked, and the search fails for its configuration.
* If there are addresses and no node answers, and only then, none could be reached; it is told how
  many addresses were tried, and they are left as inactive members without identifiers, once each,
  in the order in which they were first named.
* Otherwise the search yields how often an address was answered.

The active members are one under each identifier that was answered, at an address at which it
answered, and the inactive ones are the addresses at which no node answered. Who is registered and
active does not depend on the order of the addresses. -/
theorem bootstrap_outcome (hempty : l.registry = .empty)
    (hrun : Runs Ledger.Later (d.bootstrap seeds : Activity τ (Except Failure Nat)) l t r l')
    (hanswers : AnsweredBy f t) :
    ((∃ text, r = .error (.configuration text)) ↔ seeds = []) ∧
    (t = [] ↔ seeds = []) ∧
    ((∃ n, r = .error (.noReachableSeeds n)) ↔
      seeds ≠ [] ∧ ∀ a ∈ seeds, (f a).isOk = false) ∧
    (∀ n, r = .error (.noReachableSeeds n) → n = seeds.length ∧
      l'.registry.entries = seeds.eraseDups.map fun a => .fresh (.unresolved a) false l.now) ∧
    ((∃ a ∈ seeds, (f a).isOk = true) → r = .ok (seeds.countP fun a => (f a).isOk)) ∧
    Found f seeds l'.registry ∧
    ∀ seeds' l₁ t₁ r₁ l₁', seeds'.Perm seeds → l₁.registry = .empty →
      Runs Ledger.Later (d.bootstrap seeds' : Activity τ (Except Failure Nat)) l₁ t₁ r₁ l₁' →
      AnsweredBy f t₁ → ∀ k, l₁'.registry.isActive? k = l'.registry.isActive? k := by
  have hstarted := started_of_runs hempty hrun hanswers
  have hperm : ∀ seeds' l₁ t₁ r₁ l₁', seeds'.Perm seeds → l₁.registry = .empty →
      Runs Ledger.Later (d.bootstrap seeds' : Activity τ (Except Failure Nat)) l₁ t₁ r₁ l₁' →
      AnsweredBy f t₁ → ∀ k, l₁'.registry.isActive? k = l'.registry.isActive? k := by
    intro seeds' l₁ t₁ r₁ l₁' hseeds hempty₁ hrun₁ hanswers₁ k
    have hstarted₁ := started_of_runs hempty₁ hrun₁ hanswers₁
    cases k with
    | identifier i =>
        rw [hstarted₁.isActive?_identifier, hstarted.isActive?_identifier]
        simp only [hseeds.mem_iff]
    | address a =>
        rw [hstarted₁.isActive?_address, hstarted.isActive?_address]
        simp only [hseeds.mem_iff]
  cases hseeds : seeds with
  | nil =>
      subst hseeds
      obtain ⟨rfl, rfl, rfl⟩ := runs_bootstrap_nil.mp hrun
      exact ⟨by simp [noSeeds], by simp, by simp [noSeeds], by simp [noSeeds], by simp,
        hstarted.found, hperm⟩
  | cons a as =>
      rw [← hseeds]
      have hne : seeds ≠ [] := by simp [hseeds]
      obtain ⟨rfl, hr, -, hleft⟩ := runs_bootstrap_answeredBy hempty hne hrun hanswers
      by_cases hsilent : ∀ a ∈ seeds, (f a).isOk = false
      · rw [if_pos hsilent] at hr
        subst hr
        refine ⟨by simp [hne], by simp [hne], by simp [hne]; exact hsilent, ?_, ?_,
          hstarted.found, hperm⟩
        · rintro n hn
          refine ⟨by simpa using hn.symm, ?_⟩
          rw [hleft hsilent, entries_add_seeds]
        · rintro ⟨a, ha, hok⟩
          rw [hsilent a ha] at hok
          exact absurd hok Bool.false_ne_true
      · rw [if_neg hsilent] at hr
        subst hr
        exact ⟨by simp [hne], by simp [hne], by simp [hsilent], by simp, fun _ => rfl,
          hstarted.found, hperm⟩

/-- The answers of a node that has two addresses, while another address is silent. -/
def twofold (silent : Address) (a : Address) : Except Failure TopologyView :=
  if a = silent then .error (.unreachable a.text "connection refused" false) else .ok ⟨"a", "", []⟩

/-- A search that starts from two addresses of a node, one of them named twice, and from one at
which no node answers. -/
lemma bootstrap_outcome_twofold :
    let place (name : String) : Address := ⟨"http", none, .whole name, none, none⟩
    let seeds := [place "x", place "z", place "y", place "x"]
    let l := Ledger.start 0 .first
    let d : Discovery := ⟨⟨1⟩, true⟩
    ∃ (t : List (Exchange Unit)) (l' : Ledger), l.registry = .empty ∧
      Runs Ledger.Later (d.bootstrap seeds) l t (.ok 3) l' ∧
      AnsweredBy (twofold (place "z")) t ∧ Found (twofold (place "z")) seeds l'.registry := by
  intro place seeds l d
  obtain ⟨t, hrun, hanswers⟩ := exists_runs_steady (twofold (place "z"))
    (a := d.bootstrap seeds) (l := l) (r := .ok 3) (by decide +kernel)
  exact ⟨t, _, rfl, hrun, hanswers, (bootstrap_outcome rfl hrun hanswers).2.2.2.2.2.1⟩

/-! ### Addresses that are named repeatedly -/

/-- **What a repeated address changes.** Let nobody else change the registries, which are empty, and
let what a node answers depend on nothing but the address at which it is asked. A search that starts
from some addresses registers the same members with the same status as one that starts from each of
them once, and a member has the same address unless it answered at a repeated one: then it has the
last of those. So nothing changes at all if no member answered at two addresses. -/
theorem bootstrap_eraseDups {l₁ l₁' : Ledger} {t₁ : List (Exchange τ)} {r₁ : Except Failure Nat}
    (hempty : l.registry = .empty) (hempty₁ : l₁.registry = .empty)
    (hrun : Runs Ledger.Later (d.bootstrap seeds : Activity τ (Except Failure Nat)) l t r l')
    (hrun₁ : Runs Ledger.Later (d.bootstrap seeds.eraseDups : Activity τ (Except Failure Nat))
      l₁ t₁ r₁ l₁')
    (hanswers : AnsweredBy f t) (hanswers₁ : AnsweredBy f t₁) :
    (∀ k, l'.registry.isActive? k = l₁'.registry.isActive? k) ∧
    (∀ a, (l'.registry.find? (.address a)).map Entry.record =
      (l₁'.registry.find? (.address a)).map Entry.record) ∧
    (∀ i, (l'.registry.get? i).map Record.address =
      (lastRepeated? f seeds i).or ((l₁'.registry.get? i).map Record.address)) ∧
    ((∀ i, ∀ a ∈ seeds, ∀ b ∈ seeds, names f i a = true → names f i b = true → a = b) →
      ∀ k, (l'.registry.find? k).map Entry.outline = (l₁'.registry.find? k).map Entry.outline) := by
  have h := started_of_runs hempty hrun hanswers
  have h₁ := started_of_runs hempty₁ hrun₁ hanswers₁
  have haddress : ∀ a, (l'.registry.find? (.address a)).map Entry.record =
      (l₁'.registry.find? (.address a)).map Entry.record := by
    intro a
    rw [h.address, h₁.address]
    by_cases ha : a ∈ seeds
    · cases (f a).isOk <;> simp [ha, Entry.fresh]
    · simp [ha]
  have hstatus : ∀ k, l'.registry.isActive? k = l₁'.registry.isActive? k := by
    intro k
    cases k with
    | identifier i =>
        rw [h.isActive?_identifier, h₁.isActive?_identifier]
        simp only [List.mem_eraseDups]
    | address a =>
        rw [h.isActive?_address, h₁.isActive?_address]
        simp only [List.mem_eraseDups]
  refine ⟨hstatus, haddress, fun i => ?_, fun hsingle k => ?_⟩
  · rw [h.address_get?, h₁.address_get?, home?_eraseDups, home?]
  · cases k with
    | identifier i =>
        rw [h.identifier, h₁.identifier]
        congr 1
        cases hhome : home? f seeds i with
        | none =>
            have hnone : ∀ a ∈ seeds, names f i a = false := by
              intro a ha
              by_contra hn
              have hsome := isSome_home?_iff.mpr ⟨a, ha, by simpa using hn⟩
              rw [hhome] at hsome
              exact absurd hsome Bool.false_ne_true
            rw [home?_eraseDups, List.find?_eq_none.mpr (by simpa using hnone)]
        | some a =>
            obtain ⟨ha, hn⟩ := names_of_home? hhome
            obtain ⟨b, hb⟩ := Option.isSome_iff_exists.mp
              (isSome_home?_iff.mpr ⟨a, List.mem_eraseDups.mpr ha, hn⟩)
            obtain ⟨hbmem, hbn⟩ := names_of_home? hb
            rw [hb, hsingle i a ha b (List.mem_eraseDups.mp hbmem) hn hbn]
    | address a =>
        rw [h.address, h₁.address]
        by_cases ha : a ∈ seeds
        · cases (f a).isOk <;> simp [ha, Entry.fresh, Entry.outline]
        · simp [ha]

/-- If a node answers at two addresses and only one of them is searched, naming it twice changes
nothing. -/
lemma bootstrap_eraseDups_twofold :
    let place (name : String) : Address := ⟨"http", none, .whole name, none, none⟩
    let seeds := [place "x", place "z", place "x"]
    let l := Ledger.start 0 .first
    let d : Discovery := ⟨⟨1⟩, true⟩
    ∃ (t t₁ : List (Exchange Unit)) (l' l₁' : Ledger), l.registry = .empty ∧
      Runs Ledger.Later (d.bootstrap seeds) l t (.ok 2) l' ∧
      Runs Ledger.Later (d.bootstrap seeds.eraseDups) l t₁ (.ok 1) l₁' ∧
      AnsweredBy (twofold (place "z")) t ∧ AnsweredBy (twofold (place "z")) t₁ ∧
      l'.registry.isActive? (.identifier "a") = some true ∧
      ∀ k, (l'.registry.find? k).map Entry.outline = (l₁'.registry.find? k).map Entry.outline := by
  intro place seeds l d
  obtain ⟨t, hrun, hanswers⟩ := exists_runs_steady (twofold (place "z"))
    (a := d.bootstrap seeds) (l := l) (r := .ok 2) (by decide +kernel)
  obtain ⟨t₁, hrun₁, hanswers₁⟩ := exists_runs_steady (twofold (place "z"))
    (a := d.bootstrap seeds.eraseDups) (l := l) (r := .ok 1) (by decide +kernel)
  have hsingle : ∀ i, ∀ a ∈ seeds, ∀ b ∈ seeds, names (twofold (place "z")) i a = true →
      names (twofold (place "z")) i b = true → a = b := by
    have hplace : ∀ i, ∀ a ∈ seeds, names (twofold (place "z")) i a = true → a = place "x" := by
      intro i a ha hn
      obtain ⟨v, hv, -⟩ := names_iff.mp hn
      have hz : a ≠ place "z" := by
        rintro rfl
        exact absurd hv (by simp [twofold])
      simpa [seeds, hz] using ha
    intro i a ha b hb hna hnb
    rw [hplace i a ha hna, hplace i b hb hnb]
  exact ⟨t, t₁, _, _, rfl, hrun, hrun₁, hanswers, hanswers₁, by decide +kernel,
    (bootstrap_eraseDups rfl rfl hrun hrun₁ hanswers hanswers₁).2.2.2 hsingle⟩

/-- **A repeated address that moves a member.** A node answers at two addresses, of which the second
one is named twice; so it is registered there, and at the first one if each is named once. -/
theorem moved_by_repetition :
    let place (name : String) : Address := ⟨"http", none, .whole name, none, none⟩
    let seeds := [place "x", place "y", place "y"]
    let l := Ledger.start 0 .first
    let d : Discovery := ⟨⟨1⟩, true⟩
    ∃ (t t₁ : List (Exchange Unit)) (l' l₁' : Ledger), l.registry = .empty ∧
      Runs Ledger.Later (d.bootstrap seeds) l t (.ok 3) l' ∧
      Runs Ledger.Later (d.bootstrap seeds.eraseDups) l t₁ (.ok 2) l₁' ∧
      AnsweredBy (twofold (place "z")) t ∧ AnsweredBy (twofold (place "z")) t₁ ∧
      (l'.registry.get? "a").map Record.address = some (place "y") ∧
      (l₁'.registry.get? "a").map Record.address = some (place "x") ∧
      place "x" ≠ place "y" := by
  intro place seeds l d
  obtain ⟨t, hrun, hanswers⟩ := exists_runs_steady (twofold (place "z"))
    (a := d.bootstrap seeds) (l := l) (r := .ok 3) (by decide +kernel)
  obtain ⟨t₁, hrun₁, hanswers₁⟩ := exists_runs_steady (twofold (place "z"))
    (a := d.bootstrap seeds.eraseDups) (l := l) (r := .ok 2) (by decide +kernel)
  exact ⟨t, t₁, _, _, rfl, hrun, hrun₁, hanswers, hanswers₁, by decide +kernel, by decide +kernel,
    by decide⟩

end Discovery

end Roster
