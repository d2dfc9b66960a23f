import Mathlib.Data.List.Nodup
import Roster.Json.Form
import Roster.Proofs.Lists

/-!
# What is read of a form

Whatever text a record of a form is read from, its data are those of the fields of the form, in
order, and each of the kind of its field: a port is small enough to be one.

* `Datum.Is`: data of a kind.
* `Form.Sound`: the names of the fields differ, and what stands in for data that is left out is of
  the right kind.
* `Form.read_is`, `Form.readAll_is`: the data of one record, and of the records of a list.
-/

namespace Roster.Json

/-- Data of a kind. -/
def Datum.Is : Kind → Datum → Prop
  | .text, .text _ | .optionalText, .optionalText _ | .address, .address _ | .number, .number _ =>
      True
  | .port, .port n => n < Nat.pow 2 16
  | .optionalPort, .optionalPort n => ∀ p ∈ n, p < Nat.pow 2 16
  | _, _ => False

lemma map_eq_ok_iff {α β ε : Type} {r : Except ε α} {g : α → β} {b : β} :
    r.map g = .ok b ↔ ∃ a, r = .ok a ∧ g a = b := by
  cases r <;> simp [Except.map]

/-! ### One datum -/

lemma readPortNumber_lt {cs rest : List Char} {n : Nat} (h : readPortNumber cs = .ok (n, rest)) :
    n < Nat.pow 2 16 := by
  unfold readPortNumber at h
  split at h
  · split at h
    · next hlt =>
      cases h
      exact hlt
    · cases h
  · cases h
  · cases h

lemma readOptional_of {α : Type} {read : List Char → Reading α} {P : α → Prop}
    (hread : ∀ cs a rest, read cs = .ok (a, rest) → P a) {cs rest : List Char} {a? : Option α}
    (h : readOptional read cs = .ok (a?, rest)) : ∀ a ∈ a?, P a := by
  unfold readOptional at h
  split at h
  · obtain ⟨_, -, heq⟩ := map_eq_ok_iff.mp h
    cases heq
    exact fun _ ha => absurd ha (by simp)
  · obtain ⟨⟨a, rest⟩, hok, heq⟩ := map_eq_ok_iff.mp h
    cases heq
    intro b hb
    cases hb
    exact hread _ _ _ hok

/-- What is read as data of a kind is of that kind. -/
lemma Kind.read_is {kind : Kind} {cs rest : List Char} {d : Datum}
    (h : kind.read cs = .ok (d, rest)) : d.Is kind := by
  cases kind with
  | text | optionalText | address | number =>
      obtain ⟨_, -, heq⟩ := map_eq_ok_iff.mp h
      cases heq
      trivial
  | port =>
      obtain ⟨⟨n, rest⟩, hn, heq⟩ := map_eq_ok_iff.mp h
      cases heq
      exact readPortNumber_lt hn
  | optionalPort =>
      obtain ⟨⟨n, rest⟩, hn, heq⟩ := map_eq_ok_iff.mp h
      cases heq
      exact readOptional_of (fun _ _ _ => readPortNumber_lt) hn

/-! ### The data of a record -/

namespace Form

/-- A form whose fields can be told apart, and whose stand-ins are of the right kind. -/
structure Sound (form : Form) : Prop where
  distinct : (form.map Field.name).Nodup
  inTable : ∀ f ∈ form, ∀ d ∈ f.inTable, d.Is f.kind
  inList : ∀ f ∈ form, ∀ d ∈ f.inList, d.Is f.kind

/-- Data of the fields of a form, in order. -/
def Holds (form : Form) (ds : List Datum) : Prop := List.Forall₂ (fun f d => d.Is f.kind) form ds

/-- Data found so far is that of the fields of a form. -/
structure Filled (form : Form) (filling : Filling) : Prop where
  fields : filling.map Prod.fst = form
  is : ∀ x ∈ filling, ∀ d ∈ x.2, d.Is x.1.kind

variable {form : Form} {filling : Filling} {cs rest : List Char} {ds : List Datum}

lemma Filled.empty (form : Form) : Filled form (form.map (·, none)) := by
  refine ⟨?_, ?_⟩
  · rw [List.map_map]
    exact List.map_id' form
  · intro x hx d hd
    obtain ⟨f, -, rfl⟩ := List.mem_map.mp hx
    cases hd

/-- One more field is filled. -/
lemma Filled.fill (h : Filled form filling) (hform : form.Sound) {f : Field} {d : Datum}
    (hf : f ∈ form) (hd : d.Is f.kind) : Filled form (fill f.name d filling) := by
  refine ⟨?_, ?_⟩
  · rw [Form.fill, List.map_map]
    exact h.fields
  · intro x hx e he
    obtain ⟨⟨g, old⟩, hmem, rfl⟩ := List.mem_map.mp hx
    dsimp only at he
    split at he
    · next hname =>
      -- The field with this name is the one that was read.
      have hg : g ∈ form := h.fields ▸ List.mem_map_of_mem hmem
      rw [List.inj_on_of_nodup_map hform.distinct hg hf hname]
      cases he
      exact hd
    · exact h.is _ hmem e he

/-- What is left out is made up for by what stands in for it. -/
lemma Filled.finish (h : Filled form filling) (hform : form.Sound)
    (hds : finish filling = .ok ds) : form.Holds ds := by
  unfold Form.finish at hds
  split at hds
  · next hmap =>
    cases hds
    have hmem : ∀ x ∈ filling, x.1 ∈ form := fun x hx => h.fields ▸ List.mem_map_of_mem hx
    have hpairs := (List.forall₂_and_left _ _).mpr
      ⟨fun x hx => And.intro (h.is x hx) (hform.inTable _ (hmem x hx)), mapM_eq_some_iff.mp hmap⟩
    refine h.fields ▸ List.forall₂_map_left_iff.mpr (hpairs.imp ?_)
    rintro ⟨f, d?⟩ d ⟨⟨hfound, hstandIn⟩, heq⟩
    cases d? with
    | some d' =>
        cases heq
        exact hfound _ rfl
    | none => exact hstandIn _ heq
  · cases hds

/-- A member of a table fills the field with its name. -/
lemma Filled.readMember (h : Filled form filling) (hform : form.Sound) {name : String}
    {filling' : Filling} (hread : readMember name filling cs = .ok (filling', rest)) :
    Filled form filling' := by
  unfold Form.readMember at hread
  split at hread
  · next f old hfind =>
    obtain ⟨⟨d, rest⟩, hd, heq⟩ := map_eq_ok_iff.mp hread
    cases heq
    have hname : f.name = name := by simpa using List.find?_some hfind
    have hf : f ∈ form := h.fields ▸ List.mem_map_of_mem (List.mem_of_find?_eq_some hfind)
    exact hname ▸ h.fill hform hf (Kind.read_is hd)
  · obtain ⟨_, -, heq⟩ := map_eq_ok_iff.mp hread
    cases heq
    exact h

lemma Filled.readTable (hform : form.Sound) {fuel : Nat} (h : Filled form filling)
    (hread : readTable fuel filling cs = .ok (ds, rest)) : form.Holds ds := by
  induction fuel generalizing filling cs with
  | zero => cases hread
  | succ fuel ih =>
      unfold Form.readTable at hread
      split at hread
      · split at hread
        · cases hread
        · dsimp only at hread
          split at hread
          · cases hread
          · split at hread
            · split at hread
              · cases hread
              · next hmember =>
                have hfilled := h.readMember hform hmember
                split at hread
                · exact ih hfilled hread
                · obtain ⟨ds, hds, heq⟩ := map_eq_ok_iff.mp hread
                  cases heq
                  exact hfilled.finish hform hds
                · cases hread
            · cases hread
      · cases hread

lemma readList_is (hform : ∀ f ∈ form, ∀ d ∈ f.inList, d.Is f.kind) {first : Bool}
    (hread : readList first form cs = .ok (ds, rest)) : form.Holds ds := by
  induction form generalizing first cs ds rest with
  | nil =>
      unfold readList at hread
      split at hread
      · cases hread
        exact .nil
      · cases hread
  | cons f fs ih =>
      have hitem : ∀ cs ds, readList.item f fs cs = .ok (ds, rest) → Holds (f :: fs) ds := by
        intro cs ds hitem
        unfold readList.item at hitem
        split at hitem
        · cases hitem
        · next d rest' hd =>
          obtain ⟨⟨ds', rest⟩, hds, heq⟩ := map_eq_ok_iff.mp hitem
          cases heq
          exact .cons (Kind.read_is hd) (ih (fun g hg => hform g (List.mem_cons_of_mem _ hg)) hds)
      unfold readList at hread
      split at hread
      · split at hread
        · next hdefaults =>
          cases hread
          refine ((List.forall₂_and_left _ _).mpr ⟨hform, mapM_eq_some_iff.mp hdefaults⟩).imp ?_
          exact fun g d hdefault => hdefault.1 d hdefault.2
        · cases hread
      · split at hread
        · cases hread
        · split at hread
          · cases hread
          · exact hitem _ _ hread
      · cases hread
      · split at hread
        · exact hitem _ _ hread
        · cases hread

/-- **The data of a record** are those of the fields of its form. -/
theorem read_is (hform : form.Sound) (hread : form.read cs = .ok (ds, rest)) : form.Holds ds := by
  unfold Form.read at hread
  split at hread
  · split at hread
    · obtain ⟨ds, hds, heq⟩ := map_eq_ok_iff.mp hread
      cases heq
      exact (Filled.empty form).finish hform hds
    · exact (Filled.empty form).readTable hform hread
  · exact readList_is hform.inList hread
  · cases hread

lemma readRecords_is (hform : form.Sound) {fuel : Nat} {records : List (List Datum)}
    (hread : readRecords form fuel cs = .ok (records, rest)) : ∀ ds ∈ records, form.Holds ds := by
  induction fuel generalizing cs records rest with
  | zero => cases hread
  | succ fuel ih =>
      unfold readRecords at hread
      split at hread
      · cases hread
      · next ds _ hds =>
        have hholds := read_is hform hds
        split at hread
        · split at hread
          · cases hread
          · obtain ⟨⟨records, rest⟩, hrecords, heq⟩ := map_eq_ok_iff.mp hread
            cases heq
            exact List.forall_mem_cons.mpr ⟨hholds, ih hrecords⟩
        · cases hread
          exact List.forall_mem_singleton.mpr hholds
        · cases hread

/-- **The data of a list of records.** -/
theorem readAll_is (hform : form.Sound) {records : List (List Datum)}
    (hread : form.readAll cs = .ok (records, rest)) : ∀ ds ∈ records, form.Holds ds := by
  unfold Form.readAll at hread
  split at hread
  · split at hread
    · cases hread
      simp
    · exact readRecords_is hform hread
  · cases hread

end Form

end Roster.Json
