import Roster.Proofs.Json.Written
import Roster.Proofs.Registry.Reachable
import Roster.Record.Json
import Roster.Service.Running

/-!
# Records that are written as JSON

A record is read back from its text, on one line or on many, whatever its identifier and its hash
are; so two records have different texts. The members that a service lists are read back from what
it prints.

* `Address.ReadBack`: an address is read back from its text.
* `form_read_written`: the data of a record is read back.
* `listing_written`: what a service prints is read back.
* `records_survive_json`: what becomes of records.
-/

namespace Roster

/-- An address is read back from its text. -/
def Address.ReadBack (a : Address) : Prop := Address.read a.text = .ok a

namespace Json

variable {ws rest : List Char} {l : Layout} {depth fuel : Nat}

/-! ### Data of a kind -/

lemma readPlainText_quoted (hws : IsBlank ws) (t : String) (rest : List Char) :
    readPlainText (ws ++ (quoted t.toList ++ rest)) = .ok (t, rest) := by
  have hquote : isSpace '"' = false := rfl
  simp [readPlainText, skipSpace_blank hws, quoted_append, skipSpace_cons hquote, readText_quoted,
    Except.map]

lemma read_address (hws : IsBlank ws) {a : Address} (ha : a.ReadBack) (rest : List Char) :
    Kind.address.read (ws ++ (quoted a.text.toList ++ rest)) = .ok (.address a, rest) := by
  have hread : Address.read a.text = .ok a := ha
  simp only [Kind.read, readAddress, readPlainText_quoted hws, hread]
  rfl

/-- A text that may lack is read back. Nothing is written as a word, which no text starts with. -/
lemma read_optionalText (hws : IsBlank ws) (t? : Option String) (rest : List Char) :
    Kind.optionalText.read (ws ++ ((Value.ofString? t?).written l depth ++ rest)) =
      .ok (.optionalText t?, rest) := by
  cases t? with
  | none =>
      simp only [Kind.read, readOptional, skipSpace_blank hws]
      rfl
  | some t =>
      show (readOptional readPlainText (ws ++ (quoted t.toList ++ rest))).map _ = _
      have hquote : isSpace '"' = false := rfl
      have hplain := readPlainText_quoted isBlank_nil t rest
      rw [List.nil_append, quoted_append] at hplain
      simp [readOptional, skipSpace_blank hws, quoted_append, skipSpace_cons hquote, hplain,
        Except.map]

/-! ### The members of a record -/

namespace Form

/-- A member that is known and new is read, and then what follows it. -/
lemma readTable_member {filling : Filling} {f : Field} {old : Option Datum} {d : Datum}
    {name : String} {cs : List Char} {result : Reading (List Datum)}
    (hnew : (filling.find? fun (f, d) => f.name = name && d.isSome) = none)
    (hfind : (filling.find? fun (f, _) => f.name = name) = some (f, old))
    (hread : f.kind.read cs = .ok (d, rest)) (hws : IsBlank ws)
    (hresult : (match skipSpace rest with
      | ',' :: rest => readTable fuel (fill name d filling) rest
      | '\x7d' :: rest => (finish (fill name d filling)).map (·, rest)
      | rest => .error (faultAt rest)) = result) :
    readTable (fuel + 1) filling (ws ++ (quoted name.toList ++ ':' :: cs)) = result := by
  have hquote : isSpace '"' = false := rfl
  have hcolon : isSpace ':' = false := rfl
  have hmember : readMember name filling cs = .ok (fill name d filling, rest) := by
    simp [readMember, hfind, hread, Except.map]
  simp only [readTable, skipSpace_blank hws, quoted_append, skipSpace_cons hquote, readText_quoted,
    skipSpace_cons hcolon, String.ofList_toList, hnew, hmember]
  exact hresult

/-- A table that is not empty is read from its first name on. -/
lemma read_table (form : Form) (hws : IsBlank ws) (name cs : List Char) :
    form.read ('\x7b' :: (ws ++ (quoted name ++ cs))) =
      readTable ((quoted name ++ cs).length + 1) (form.map (·, none)) (quoted name ++ cs) := by
  have hbrace : isSpace '\x7b' = false := rfl
  have hquote : isSpace '"' = false := rfl
  simp [Form.read, skipSpace_cons hbrace, skipSpace_blank hws, quoted_append,
    skipSpace_cons hquote]

end Form

end Json

namespace Record

open Json

variable {r r' : Record} {l : Layout} {depth : Nat}

/-- The data of a record. -/
def data (r : Record) : List Datum :=
  [.address r.address, .optionalText r.identifier, .optionalText r.topologyHash]

/-- The data of a record is read back, whatever follows. -/
lemma form_read_written (ha : r.address.ReadBack) (l : Layout) (depth : Nat) (rest : List Char) :
    form.read (r.toJson.written l depth ++ rest) = .ok (r.data, rest) := by
  let filling₀ : Form.Filling := form.map (·, none)
  let filling₁ := Form.fill "address" (.address r.address) filling₀
  let filling₂ := Form.fill "identifier" (.optionalText r.identifier) filling₁
  let hash := [("topology_hash".toList, Value.ofString? r.topologyHash)]
  let identifier := ("identifier".toList, Value.ofString? r.identifier) :: hash
  have hlast : ∀ fuel, Form.readTable (fuel + 1) filling₂ (l.gap (depth + 1) ++
      (quoted "topology_hash".toList ++ ':' :: (l.colon ++
        ((Value.ofString? r.topologyHash).written l (depth + 1) ++
          (Value.writtenMembers l depth [] ++ rest))))) = .ok (r.data, rest) := by
    intro fuel
    refine Form.readTable_member rfl rfl (read_optionalText l.blank_colon _ _) (l.blank_gap _) ?_
    rw [skipSpace_writtenMembers_nil]
    rfl
  have hmiddle : ∀ fuel, Form.readTable (fuel + 2) filling₁ (l.gap (depth + 1) ++
      (quoted "identifier".toList ++ ':' :: (l.colon ++
        ((Value.ofString? r.identifier).written l (depth + 1) ++
          (Value.writtenMembers l depth hash ++ rest))))) = .ok (r.data, rest) := by
    intro fuel
    refine Form.readTable_member rfl rfl (read_optionalText l.blank_colon _ _) (l.blank_gap _) ?_
    rw [skipSpace_writtenMembers_cons]
    exact hlast fuel
  have hfirst : ∀ fuel, Form.readTable (fuel + 3) filling₀ (quoted "address".toList ++
      ':' :: (l.colon ++ (quoted r.address.text.toList ++
        (Value.writtenMembers l depth identifier ++ rest)))) = .ok (r.data, rest) := by
    intro fuel
    show Form.readTable (fuel + 3) filling₀ ([] ++ (quoted "address".toList ++ ':' :: _)) = _
    refine Form.readTable_member rfl rfl (read_address l.blank_colon ha _) isBlank_nil ?_
    rw [skipSpace_writtenMembers_cons]
    exact hmiddle fuel
  have htext : r.toJson.written l depth ++ rest = '\x7b' :: (l.gap (depth + 1) ++
      (quoted "address".toList ++ ':' :: (l.colon ++ (quoted r.address.text.toList ++
        (Value.writtenMembers l depth identifier ++ rest))))) := by
    simp [toJson, Value.written, Value.ofString, identifier, hash]
  rw [htext, Form.read_table form (l.blank_gap _)]
  obtain ⟨fuel, hfuel⟩ : ∃ n, (quoted "address".toList ++ ':' :: (l.colon ++
      (quoted r.address.text.toList ++ (Value.writtenMembers l depth identifier ++
        rest)))).length + 1 = n + 3 := ⟨_, rfl⟩
  rw [hfuel]
  exact hfirst fuel

/-- A record is read back from its text, whatever the white space in it is. -/
lemma ofJsonText_written (ha : r.address.ReadBack) (l : Layout) (depth : Nat) :
    ofJsonText (String.ofList (r.toJson.written l depth)) = .ok r := by
  rw [ofJsonText, String.toList_ofList, ← List.append_nil (Value.written l depth r.toJson),
    form_read_written ha]
  rfl

lemma ofJsonText_jsonText (ha : r.address.ReadBack) : ofJsonText r.jsonText = .ok r := by
  rw [jsonText, Value.compact_eq_written 0, ofJsonText_written ha]

lemma fits_toJson (depth : Nat) (r : Record) : Value.Fits (depth + 1) r.toJson := by
  have htext? : ∀ t? : Option String, Value.Fits depth (.ofString? t?) := by
    rintro (_ | t)
    · exact .null
    · exact .text
  refine .table fun m hm => ?_
  simp only [List.mem_cons, List.not_mem_nil, or_false] at hm
  rcases hm with rfl | rfl | rfl
  · exact .text
  · exact htext? _
  · exact htext? _

/-- What a service prints is read back. -/
lemma listing_written (reg : Registry) : Value.ofText (Service.listing reg).toList =
    .ok (.table [("active".toList, .list (reg.active.map toJson)),
      ("inactive".toList, .list (reg.inactive.map toJson))]) := by
  have hlist : ∀ rs : List Record, Value.Fits 126 (.list (rs.map toJson)) := by
    intro rs
    refine .list fun v hv => ?_
    obtain ⟨r, -, rfl⟩ := List.mem_map.mp hv
    exact fits_toJson 124 r
  rw [Service.listing, Registry.partition_eq]
  dsimp only
  rw [Value.pretty, String.toList_ofList, Value.prettyAt_eq_written]
  refine Value.ofText_written (.table fun m hm => ?_) .lines
  simp only [List.mem_cons, List.not_mem_nil, or_false] at hm
  rcases hm with rfl | rfl
  · exact hlist _
  · exact hlist _

lemma forall₂_ofJsonText {rs : List Record} (hrs : ∀ r ∈ rs, r.address.ReadBack) :
    List.Forall₂ (fun v r => ofJsonText (String.ofList v.compact) = .ok r) (rs.map toJson) rs := by
  rw [List.forall₂_map_left_iff, List.forall₂_same]
  exact fun r hr => ofJsonText_jsonText (hrs r hr)

/-! ### A member with an odd identifier -/

/-- The identifier has quotes, control characters and one that is not in the basic plane, and the
hash is the empty text. -/
def oddRecord : Record where
  address := ⟨"http", some (.ofHost (some (.v4 0x0a000001)) (some 8112)), .segments [""], none, none⟩
  identifier := some "\"a\\\n\x00\x1f/😀"
  topologyHash := some ""

/-- A registry with this member, which is active, and one that is not and has no identifier. -/
def oddRegistry : Registry where
  entries := [⟨oddRecord.key, oddRecord, true, 0⟩,
    ⟨.address oddRecord.address, unresolved oddRecord.address, false, 0⟩]

lemma readBack_oddRecord : oddRecord.address.ReadBack := by
  rw [Address.ReadBack]
  decide +kernel

/-! ### What becomes of records -/

/-- **Records survive JSON.** Let the addresses be read back from their texts. A record is then read
back from its text, with its identifier and its hash, be they any texts, or none; so it is from the
lines that a list of members has for it, at any depth. Two records with one text are equal. What a
service prints of its members is a table of two lists, and their entries are read back as the active
members and the others, in order. -/
theorem records_survive_json :
    (∀ r : Record, r.address.ReadBack → ofJsonText r.jsonText = .ok r ∧
      ∀ depth, ofJsonText (String.ofList (r.toJson.prettyAt depth)) = .ok r) ∧
    (∀ r r' : Record, r.address.ReadBack → r'.address.ReadBack → r.jsonText = r'.jsonText →
      r = r') ∧
    ∀ reg : Registry, (∀ e ∈ reg.entries, e.record.address.ReadBack) → ∃ vs ws,
      Value.ofText (Service.listing reg).toList =
        .ok (.table [("active".toList, .list vs), ("inactive".toList, .list ws)]) ∧
      List.Forall₂ (fun v r => ofJsonText (String.ofList v.compact) = .ok r) vs reg.active ∧
      List.Forall₂ (fun v r => ofJsonText (String.ofList v.compact) = .ok r) ws reg.inactive := by
  refine ⟨fun r hr => ⟨ofJsonText_jsonText hr, fun depth => ?_⟩, fun r r' hr hr' htext => ?_,
    fun reg hreg => ?_⟩
  · rw [Value.prettyAt_eq_written, ofJsonText_written hr]
  · have hread := ofJsonText_jsonText hr
    rw [htext, ofJsonText_jsonText hr'] at hread
    exact (Except.ok.inj hread).symm
  · have hstatus : ∀ active, ∀ r ∈ reg.withStatus active, r.address.ReadBack := by
      intro active r hr
      obtain ⟨e, he, rfl⟩ := List.mem_map.mp ((reg.withStatus_sublist active).subset hr)
      exact hreg e he
    exact ⟨_, _, listing_written reg, forall₂_ofJsonText (hstatus true),
      forall₂_ofJsonText (hstatus false)⟩

/-- A record with odd texts in it is read back, differs from the one of its address alone, and is
listed beside it. -/
theorem records_survive_json_odd :
    oddRecord.address.ReadBack ∧ ofJsonText oddRecord.jsonText = .ok oddRecord ∧
      oddRecord.jsonText ≠ (unresolved oddRecord.address).jsonText ∧ ∃ vs ws,
        Value.ofText (Service.listing oddRegistry).toList =
          .ok (.table [("active".toList, .list vs), ("inactive".toList, .list ws)]) ∧
        List.Forall₂ (fun v r => ofJsonText (String.ofList v.compact) = .ok r) vs [oddRecord] ∧
        List.Forall₂ (fun v r => ofJsonText (String.ofList v.compact) = .ok r) ws
          [unresolved oddRecord.address] := by
  obtain ⟨hrecord, hinjective, hlisting⟩ := records_survive_json
  have hread := readBack_oddRecord
  refine ⟨hread, (hrecord _ hread).1, fun htext => ?_, hlisting oddRegistry ?_⟩
  · have hidentifier : oddRecord.identifier ≠ none := by decide
    have heq := hinjective oddRecord (unresolved oddRecord.address) hread hread htext
    exact hidentifier (congrArg Record.identifier heq)
  · simpa [oddRegistry, unresolved] using hread

end Record

end Roster
