import FilterSql.Postgres.Row
import FilterSql.Proofs.Members
import FilterSql.Proofs.Moments

/-!
# What a row keeps of its cells

A row has one entry for each name, that of the last column of the name. The entry of a cell that
fits the type of its column is the document of the cell. What of the cell can be told from the
document is a cell again: `kept` says what is left of a NUMERIC and of a moment, `isLost` which
cells have no document but null, and all else is told apart.
-/

namespace FilterSql

/-! ## UUIDs -/

namespace PgCell

/-- The digits of a UUID, without hyphens. -/
def uuidDigits (n : Nat) : List Char :=
  List.replicate (32 - (Nat.toDigits 16 n).length) '0' ++ Nat.toDigits 16 n

theorem length_uuidDigits {n : Nat} (h : n < Nat.pow 2 128) : (uuidDigits n).length = 32 := by
  have hlength : (Nat.toDigits 16 n).length ≤ 32 :=
    (Nat.length_toDigits_le_iff (by omega) (by omega)).mpr (Nat.lt_of_lt_of_eq h (by decide))
  rw [uuidDigits, List.length_append, List.length_replicate]
  omega

/-- Without its hyphens the text of a UUID is its digits. -/
theorem filter_uuidText {n : Nat} (h : n < Nat.pow 2 128) :
    (uuidText n).toList.filter (· ≠ '-') = uuidDigits n := by
  have hplain : ∀ start length, (((uuidDigits n).drop start).take length).filter (· ≠ '-') =
      ((uuidDigits n).drop start).take length := by
    have hdigits : "0123456789abcdef".toList.all (· ≠ '-') := by decide
    intro start length
    refine List.filter_eq_self.mpr fun c hc => List.all_eq_true.mp hdigits c ?_
    rcases List.mem_append.mp (List.mem_of_mem_drop (List.mem_of_mem_take hc)) with hc | hc
    · rw [List.eq_of_mem_replicate hc]
      decide
    · exact Text.mem_digits_of_mem_toDigits (by omega) (by omega) hc
  have hhyphen : "-".toList.filter (· ≠ '-') = [] := by decide
  have hparts : uuidText n = String.intercalate "-"
      ([(0, 8), (8, 4), (12, 4), (16, 4), (20, 12)].map fun p =>
        String.ofList (((uuidDigits n).drop p.1).take p.2)) := rfl
  -- The five parts follow each other, so that together they are the first 32 digits.
  calc (uuidText n).toList.filter (· ≠ '-')
      = ((uuidDigits n).drop 0).take 8 ++ ((uuidDigits n).drop 8).take 4 ++
          ((uuidDigits n).drop 12).take 4 ++ ((uuidDigits n).drop 16).take 4 ++
          ((uuidDigits n).drop 20).take 12 := by
        rw [hparts]
        simp only [List.map_cons, List.map_nil, String.intercalate_cons_cons,
          String.intercalate_singleton, String.toList_append, String.toList_ofList,
          List.filter_append, hhyphen, hplain, List.nil_append, List.append_assoc]
    _ = (uuidDigits n).take (8 + 4 + 4 + 4 + 12) := by
        rw [List.take_add, List.take_add, List.take_add, List.take_add, List.drop_zero]
    _ = uuidDigits n := List.take_of_length_le (Nat.le_of_eq (length_uuidDigits h))

/-- UUIDs are told apart by their texts. -/
theorem uuidText_inj {n n' : Nat} (hn : n < Nat.pow 2 128) (hn' : n' < Nat.pow 2 128)
    (h : uuidText n = uuidText n') : n = n' := by
  have hdigits : uuidDigits n = uuidDigits n' := by
    rw [← filter_uuidText hn, h, filter_uuidText hn']
  have hnumber : ∀ m, Text.number 16 (uuidDigits m) = m := fun m => by
    rw [uuidDigits, Text.number_replicate_append, Text.number_toDigits (by omega) (by omega)]
  rw [← hnumber n, hdigits, hnumber]

end PgCell

/-! ## Cells -/

/-- The whole number of 64 bits that a number is, if it is one. -/
def Numeric.int64? (n : Numeric) : Option Int :=
  n.whole?.filter isInt64

theorem Numeric.toJson_of_some {n : Numeric} {v : Int} (h : n.int64? = some v) :
    n.toJson = .integer v := by
  obtain ⟨hwhole, hv⟩ := Option.filter_eq_some_iff.mp h
  rw [toJson, hwhole]
  exact if_pos hv

theorem Numeric.toJson_of_none {n : Numeric} (h : n.int64? = none) :
    n.toJson = .ofBinary64 n.toBinary64 := by
  rw [toJson]
  cases hwhole : n.whole? with
  | none => rfl
  | some v =>
    have hv := Option.filter_eq_none_iff.mp h v hwhole
    exact if_neg hv

theorem Numeric.isInt64_of_int64? {n : Numeric} {v : Int} (h : n.int64? = some v) : isInt64 v :=
  (Option.filter_eq_some_iff.mp h).2

/-- A whole number without places is one of 64 bits as far as it fits. -/
theorem Numeric.int64?_whole {v : Int} (h : isInt64 v) :
    int64? ⟨decide (v < 0), v.natAbs, 0⟩ = some v := by
  have hwhole : whole? ⟨decide (v < 0), v.natAbs, 0⟩ = some v := by
    have hone : Nat.pow 10 0 = 1 := rfl
    simp only [whole?, hone, Nat.mod_one, Nat.div_one, if_true, decide_eq_true_eq]
    congr 1
    split <;> omega
  rw [int64?, hwhole, Option.filter_some, if_pos h]

theorem Json.ofBinary64_eq_null_iff {x : Binary64} : Json.ofBinary64 x = .null ↔ ¬ x.isFinite := by
  rw [Json.ofBinary64]
  split <;> simp [*]

theorem Json.ofBinary64_ne_integer {x : Binary64} {v : Int} : Json.ofBinary64 x ≠ .integer v := by
  rw [Json.ofBinary64]
  split <;> exact nofun

/-- Floating-point numbers are told apart by their documents, but for those that are not finite. -/
theorem Json.ofBinary64_inj {x y : Binary64} (hx : Json.ofBinary64 x ≠ .null)
    (h : Json.ofBinary64 y = .ofBinary64 x) : y = x := by
  have hy : y.isFinite := not_not.mp (Json.ofBinary64_eq_null_iff.not.mp (h ▸ hx))
  have hfinite : x.isFinite := not_not.mp (Json.ofBinary64_eq_null_iff.not.mp hx)
  rw [Json.ofBinary64, Json.ofBinary64, if_pos hy, if_pos hfinite] at h
  exact Json.float.inj h

namespace PgCell

/-- What a cell is as JSON, by what it holds. -/
def document : PgCell → Json
  | null | undecodable => .null
  | bool b => .bool b
  | int2 n => .integer n.toInt
  | int4 n => .integer n.toInt
  | int8 n => .integer n.toInt
  | float4 x | float8 x => .ofBinary64 x
  | numeric n => n.toJson
  | timestamp t | timestampTz t => .text t.text
  | date d => .text d.text
  | json document => document
  | uuid n => .text (uuidText n)
  | text s => .text s

/-- Whether a cell that holds something is null as JSON. There is no JSON for a number that is not
finite, and the document null is that of NULL. -/
def isLost : PgCell → Bool
  | float4 x | float8 x => !x.isFinite
  | numeric n => n.int64?.isNone && !n.toBinary64.isFinite
  | json .null => true
  | _ => false

/-- What is kept of a cell that is not lost. A number that is whole is kept without its places if
it has 64 bits, and every other one as a floating-point number, and a moment is kept up to its
second. -/
def kept : PgCell → PgCell
  | numeric n =>
    match n.int64? with
    | some v => numeric ⟨decide (v < 0), v.natAbs, 0⟩
    | none => float8 n.toBinary64
  | timestamp t => timestamp t.toSecond
  | timestampTz t => timestampTz t.toSecond
  | c => c

/-- Whether a cell is NULL or what the driver decodes in a column of the type: dates and moments are
those of the calendar, and a UUID has sixteen bytes. -/
def Fits (type : String) (c : PgCell) : Prop :=
  c = null ∨ match type with
    | "BOOL" => ∃ b, c = bool b
    | "INT2" => ∃ n, c = int2 n
    | "INT4" => ∃ n, c = int4 n
    | "INT8" => ∃ n, c = int8 n
    | "FLOAT4" => ∃ x, c = float4 x
    | "FLOAT8" => ∃ x, c = float8 x
    | "NUMERIC" => ∃ n, c = numeric n
    | "TIMESTAMP" => ∃ t : {t : DateTime // t.IsCivil}, c = timestamp t
    | "TIMESTAMPTZ" => ∃ t : {t : DateTime // t.IsCivil}, c = timestampTz t
    | "DATE" => ∃ d : {d : Date // d.IsCivil}, c = date d
    | "JSON" | "JSONB" => ∃ j, c = json j
    | "UUID" => ∃ n : Fin (Nat.pow 2 128), c = uuid n
    | _ => ∃ s, c = text s

/-- A cell is read as what it holds, if it fits the type of its column. -/
theorem value?_of_fits {type : String} {c : PgCell} (h : c.Fits type) :
    (c.value? type).getD .null = c.document := by
  rcases h with rfl | h
  · have hnone : null.value? type = none := by
      unfold value?
      split <;> first | rfl | contradiction
    rw [hnone]
    rfl
  · split at h <;> obtain ⟨a, rfl⟩ := h
    case h_14 =>
      -- A type of any other name has texts.
      unfold value?
      split <;> try contradiction
      · cases ‹text a = text _›
        rfl
      · exact absurd rfl (‹∀ s, text a = text s → False› a)
    all_goals rfl

/-- What is kept of a cell has the document of the cell. -/
theorem document_kept (c : PgCell) : c.kept.document = c.document := by
  cases c with
  | numeric n =>
    cases hn : n.int64? with
    | some v =>
      have hwhole := Numeric.int64?_whole (Numeric.isInt64_of_int64? hn)
      simp only [kept, hn, document, Numeric.toJson_of_some hn, Numeric.toJson_of_some hwhole]
    | none => simp only [kept, hn, document, Numeric.toJson_of_none hn]
  | timestamp t | timestampTz t => simp only [kept, document, t.text_toSecond]
  | _ => rfl

/-- Of the cells that are decoded, NULL and those that are lost are null as JSON. -/
theorem document_eq_null_iff {c : PgCell} (hc : c ≠ undecodable) :
    c.document = .null ↔ c = null ∨ c.isLost := by
  cases c with
  | undecodable => exact absurd rfl hc
  | float4 x | float8 x => simp [document, isLost, Json.ofBinary64_eq_null_iff]
  | numeric n =>
    cases hn : n.int64? with
    | some v => simp [document, isLost, hn, Numeric.toJson_of_some hn]
    | none => simp [document, isLost, hn, Numeric.toJson_of_none hn, Json.ofBinary64_eq_null_iff]
  | json j => cases j <;> simp [document, isLost]
  | _ => simp [document, isLost]

theorem Fits.ne_undecodable {type : String} {c : PgCell} (h : c.Fits type) : c ≠ undecodable := by
  rcases h with rfl | h
  · exact nofun
  · split at h <;> obtain ⟨a, rfl⟩ := h <;> exact nofun

/-- Numbers that are not lost are told apart as far as they are kept. -/
theorem kept_numeric_of_toJson {n n' : Numeric} (hn : n.toJson ≠ .null)
    (h : n'.toJson = n.toJson) : (numeric n').kept = (numeric n).kept := by
  cases hwhole : n.int64? with
  | some v =>
    rw [Numeric.toJson_of_some hwhole] at h
    cases hwhole' : n'.int64? with
    | some v' =>
      rw [Numeric.toJson_of_some hwhole'] at h
      simp only [kept, hwhole, hwhole', Json.integer.inj h]
    | none =>
      rw [Numeric.toJson_of_none hwhole'] at h
      exact absurd h Json.ofBinary64_ne_integer
  | none =>
    rw [Numeric.toJson_of_none hwhole] at h hn
    cases hwhole' : n'.int64? with
    | some v' =>
      rw [Numeric.toJson_of_some hwhole'] at h
      exact absurd h.symm Json.ofBinary64_ne_integer
    | none =>
      rw [Numeric.toJson_of_none hwhole'] at h
      simp only [kept, hwhole, hwhole', Json.ofBinary64_inj hn h]

/-- Cells that fit one type, and that have a document other than null, are told apart by their
documents exactly as far as they are kept. -/
theorem document_eq_iff {type : String} {c c' : PgCell} (h : c.Fits type) (h' : c'.Fits type)
    (hc : c.document ≠ .null) : c'.document = c.document ↔ c'.kept = c.kept := by
  refine ⟨fun hdocument => ?_, fun hkept => ?_⟩
  · -- Neither cell is NULL, which has the document null.
    have hc' : c'.document ≠ .null := hdocument ▸ hc
    obtain hnull | h := h
    · exact absurd (congrArg document hnull) hc
    obtain hnull' | h' := h'
    · exact absurd (congrArg document hnull') hc'
    -- Both cells hold what the one type has, so that their documents are made in one way.
    split at h <;> obtain ⟨a, rfl⟩ := h <;> (split at h' <;> try contradiction) <;>
      obtain ⟨b, rfl⟩ := h'
    case h_1 => exact congrArg kept (congrArg bool (Json.bool.inj hdocument))
    case h_2 => exact congrArg int2 (Int16.toInt_inj.mp (Json.integer.inj hdocument))
    case h_3 => exact congrArg int4 (Int32.toInt_inj.mp (Json.integer.inj hdocument))
    case h_4 => exact congrArg int8 (Int64.toInt_inj.mp (Json.integer.inj hdocument))
    case h_5 => exact congrArg float4 (Json.ofBinary64_inj hc hdocument)
    case h_6 => exact congrArg float8 (Json.ofBinary64_inj hc hdocument)
    case h_7 => exact kept_numeric_of_toJson hc hdocument
    case h_8 =>
      exact congrArg timestamp ((DateTime.text_eq_iff b.2 a.2).mp (Json.text.inj hdocument))
    case h_9 =>
      exact congrArg timestampTz ((DateTime.text_eq_iff b.2 a.2).mp (Json.text.inj hdocument))
    case h_10 => exact congrArg date (Date.text_inj b.2 a.2 (Json.text.inj hdocument))
    case h_11 | h_12 => exact congrArg json hdocument
    case h_13 => exact congrArg uuid (uuidText_inj b.2 a.2 (Json.text.inj hdocument))
    case h_14 => exact congrArg text (Json.text.inj hdocument)
  · rw [← c.document_kept, ← hkept, c'.document_kept]

end PgCell

/-! ## Rows -/

namespace Row

/-- Under a name stands the cell of the last column of that name. -/
theorem lookup_ofCells {before after : List (PgColumn × PgCell)} {column : PgColumn} {cell : PgCell}
    (hlast : ∀ e ∈ after, e.1.name ≠ column.name) (hcell : cell.Fits column.type) :
    (ofCells (before ++ (column, cell) :: after)).lookup column.name = some cell.document := by
  rw [ofCells, List.map_append, List.map_cons, ← PgCell.value?_of_fits hcell]
  refine Members.lookup_ofAssignments_append_cons fun hmem => ?_
  obtain ⟨a, ha, hname⟩ := List.mem_map.mp hmem
  obtain ⟨e, he, rfl⟩ := List.mem_map.mp ha
  exact hlast e he hname

/-- Every column has an entry under its name, and there is no other entry. -/
theorem mem_names_ofCells_iff {cells : List (PgColumn × PgCell)} {name : String} :
    name ∈ Members.names (ofCells cells) ↔ ∃ e ∈ cells, e.1.name = name := by
  rw [ofCells, Members.mem_names_ofAssignments_iff]
  simp [Members.names]

/-- A row has one entry under each name of a column and no other entries. The entry is that of the
last column of the name. If the cell fits the type of the column, the entry is the document of the
cell, it is null for NULL and for what is lost, and every other one tells what is kept of the cell
from what is kept of any other cell in its place. -/
theorem ofCells_keeps (cells : List (PgColumn × PgCell)) :
    (Members.names (ofCells cells)).Nodup ∧
      (∀ name, name ∈ Members.names (ofCells cells) ↔ ∃ e ∈ cells, e.1.name = name) ∧
      ∀ before column cell after, cells = before ++ (column, cell) :: after →
        (∀ e ∈ after, e.1.name ≠ column.name) → cell.Fits column.type →
        (ofCells cells).lookup column.name = some cell.document ∧
          (cell.document = .null ↔ cell = .null ∨ cell.isLost) ∧
          (cell.document ≠ .null → ∀ other : PgCell, other.Fits column.type →
            ((ofCells (before ++ (column, other) :: after)).lookup column.name =
              (ofCells cells).lookup column.name ↔ other.kept = cell.kept)) := by
  refine ⟨Members.nodup_names_ofAssignments _, fun name => mem_names_ofCells_iff, ?_⟩
  rintro before column cell after rfl hlast hcell
  refine ⟨lookup_ofCells hlast hcell, PgCell.document_eq_null_iff hcell.ne_undecodable, ?_⟩
  intro hdocument other hother
  rw [lookup_ofCells hlast hcell, lookup_ofCells hlast hother, Option.some_inj]
  exact PgCell.document_eq_iff hcell hother hdocument

/-- Two columns of one name, of which the second stays with its cell: any other number in its place
would be seen. -/
theorem ofCells_keeps_second :
    (ofCells [(⟨"id", "INT4"⟩, .int4 1), (⟨"id", "INT4"⟩, .int4 2)]).lookup "id" =
        some (.integer 2) ∧
      ∀ n : Int32, (ofCells [(⟨"id", "INT4"⟩, .int4 1), (⟨"id", "INT4"⟩, .int4 n)]).lookup "id" =
        some (.integer 2) ↔ n = 2 := by
  obtain ⟨hlookup, -, hother⟩ := (ofCells_keeps
    [(⟨"id", "INT4"⟩, .int4 1), (⟨"id", "INT4"⟩, .int4 2)]).2.2
      [(⟨"id", "INT4"⟩, .int4 1)] ⟨"id", "INT4"⟩ (.int4 2) [] rfl nofun (.inr ⟨2, rfl⟩)
  refine ⟨hlookup, fun n => ?_⟩
  have hn := hother nofun (.int4 n) (.inr ⟨n, rfl⟩)
  rw [hlookup] at hn
  exact hn.trans (iff_of_eq (PgCell.int4.injEq n 2))

/-- Not every column has its own cell in the row, for two of one name have one place. Not only NULL
is null there, for there is no JSON for a number that is not finite. Not all moments are told apart,
for their texts end with the second. And a cell that the type of its column does not decode is not
told from NULL. -/
theorem not_ofCells_keeps_all :
    ¬ (∀ cells : List (PgColumn × PgCell), ∀ e ∈ cells, e.2.Fits e.1.type →
        (ofCells cells).lookup e.1.name = some e.2.document) ∧
      ¬ (∀ (column : PgColumn) (cell : PgCell), cell.Fits column.type →
        (ofCells [(column, cell)]).lookup column.name = some .null → cell = .null) ∧
      ¬ (∀ (column : PgColumn) (cell cell' : PgCell), cell.Fits column.type →
        cell'.Fits column.type → ofCells [(column, cell)] = ofCells [(column, cell')] →
          cell = cell') ∧
      ¬ (∀ column : PgColumn,
        (ofCells [(column, .undecodable)]).lookup column.name ≠ some .null) := by
  refine ⟨fun h => ?_, fun h => ?_, fun h => ?_, fun h => ?_⟩
  · have hfirst := h [(⟨"id", "INT4"⟩, .int4 1), (⟨"id", "INT4"⟩, .int4 2)]
      (⟨"id", "INT4"⟩, .int4 1) List.mem_cons_self (.inr ⟨1, rfl⟩)
    have hsecond : some (Json.integer 2) = some (Json.integer 1) := hfirst
    simp at hsecond
  · have hnan := h ⟨"x", "FLOAT8"⟩ (.float8 ⟨0x7ff8000000000000⟩) (.inr ⟨_, rfl⟩) rfl
    cases hnan
  · have hmoments := h ⟨"at", "TIMESTAMP"⟩ (.timestamp ⟨⟨2024, 1, 2⟩, 3, 4, 5, 0⟩)
      (.timestamp ⟨⟨2024, 1, 2⟩, 3, 4, 5, 6⟩) (.inr ⟨⟨_, 2024, 1, 2, 3, 4, 5, 0, rfl⟩, rfl⟩)
      (.inr ⟨⟨_, 2024, 1, 2, 3, 4, 5, 6, rfl⟩, rfl⟩) rfl
    cases hmoments
  · exact h ⟨"price", "NUMERIC"⟩ rfl

end Row

end FilterSql
