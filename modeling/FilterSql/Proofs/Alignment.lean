import FilterSql.Output.Text
import FilterSql.Proofs.Members
import Mathlib.Algebra.GroupWithZero.Nat
import Mathlib.Data.List.Basic
import Mathlib.Data.String.Basic

/-!
# Tables line up

A column is as wide as its longest text has bytes, and a text has at most as many characters as
bytes, so that filled up to the width every cell of a column has the same number of characters
(`Table.length_cell_le_width`). The separators of a record and of the line below the header have
the same length. So all lines of a table have one length, and a column starts at one offset in all
of them (`Output.rowLines_aligned`).

The columns are in the order of their names. The order of texts by their characters is the order by
their bytes (`Text.bytes_lt`), since a character with a larger number is written with a larger byte
where the bytes of the two first differ.
-/

namespace FilterSql

/-! ## The order of bytes -/

namespace Text

/-- The bytes of a text in UTF-8. -/
def bytes (s : String) : List UInt8 :=
  s.toUTF8.data.toList

theorem bytes_eq_flatMap (s : String) : bytes s = s.toList.flatMap String.utf8EncodeChar := by
  rw [bytes, String.toUTF8_eq_toByteArray, ← String.utf8Encode_toList, List.utf8Encode,
    List.toList_data_toByteArray]

theorem length_bytes (s : String) : (bytes s).length = s.utf8ByteSize := rfl

/-- A text has at most as many characters as bytes. -/
theorem length_le_utf8ByteSize (s : String) : s.length ≤ s.utf8ByteSize := by
  rw [← length_bytes, bytes_eq_flatMap, ← String.length_toList]
  induction s.toList with
  | nil => exact Nat.le_refl 0
  | cons c cs ih =>
    have hpos : 0 < (String.utf8EncodeChar c).length :=
      List.length_pos_iff.mpr String.utf8EncodeChar_ne_nil
    rw [List.flatMap_cons, List.length_append, List.length_cons]
    omega

/-- The first byte in which they differ decides which of two texts comes first. -/
theorem byte_cons_lt {a b : Nat} {u v : List UInt8} (hb : b < 256) (hle : a ≤ b)
    (h : a = b → u < v) : UInt8.ofNat a :: u < UInt8.ofNat b :: v := by
  rw [List.cons_lt_cons_iff]
  rcases Nat.lt_or_eq_of_le hle with hlt | rfl
  · refine .inl (UInt8.lt_iff_toNat_lt.mpr ?_)
    rw [UInt8.toNat_ofNat_of_lt' (hlt.trans hb), UInt8.toNat_ofNat_of_lt' hb]
    exact hlt
  · exact .inr ⟨rfl, h rfl⟩

/-- The lesser of two characters is written with the lesser bytes, whatever comes after it. -/
theorem utf8EncodeChar_append_lt {c d : Char} (h : c < d) (u v : List UInt8) :
    String.utf8EncodeChar c ++ u < String.utf8EncodeChar d ++ v := by
  have hval : c.val.toNat < d.val.toNat := h
  have hmax : d.val.toNat < 0x110000 := by
    have hvalid := d.valid
    grind [UInt32.lt_iff_toNat_lt]
  unfold String.utf8EncodeChar
  simp only
  -- More bytes start with a larger one. Of as many bytes each but the first has six more bits of
  -- the character, so that the first in which they differ is larger for the larger character.
  split_ifs <;> (repeat refine byte_cons_lt (by omega) (by omega) fun _ => ?_) <;> omega

theorem flatMap_utf8EncodeChar_lt {cs ds : List Char} (h : cs < ds) :
    cs.flatMap String.utf8EncodeChar < ds.flatMap String.utf8EncodeChar := by
  induction h with
  | nil =>
    rw [List.flatMap_nil, List.flatMap_cons]
    obtain ⟨b, bs, hbytes⟩ := List.exists_cons_of_ne_nil String.utf8EncodeChar_ne_nil
    rw [hbytes]
    exact List.nil_lt_cons _ _
  | cons h ih => exact List.append_left_lt ih
  | rel h => exact utf8EncodeChar_append_lt h _ _

/-- Texts in order have their bytes in order. -/
theorem bytes_lt {s t : String} (h : s < t) : bytes s < bytes t := by
  rw [bytes_eq_flatMap, bytes_eq_flatMap]
  exact flatMap_utf8EncodeChar_lt (String.lt_iff_toList_lt.mp h)

end Text

namespace Table

/-! ## Columns -/

theorem mem_insertName {name n : String} {ns : List String} :
    n ∈ insertName name ns ↔ n = name ∨ n ∈ ns := by
  induction ns with
  | nil => rw [insertName, List.mem_singleton, List.mem_nil_iff, or_false]
  | cons m ns ih =>
    rw [insertName]
    split
    · rename_i h
      rw [h, List.mem_cons, ← or_assoc, or_self]
    · split
      · rw [List.mem_cons]
      · rw [List.mem_cons, ih, List.mem_cons, or_left_comm]

/-- A name has its place among sorted names, and none if it is one of them. -/
theorem pairwise_insertName {name : String} {ns : List String} (h : ns.Pairwise (· < ·)) :
    (insertName name ns).Pairwise (· < ·) := by
  induction h with
  | nil => exact List.pairwise_singleton _ _
  | @cons m ns hm hns ih =>
    rw [insertName]
    split
    · exact hns.cons hm
    · rename_i hne
      split
      · rename_i hlt
        refine (hns.cons hm).cons fun n hn => ?_
        rcases List.mem_cons.mp hn with rfl | hn
        · exact hlt
        · exact String.lt_trans hlt (hm n hn)
      · rename_i hnot
        refine ih.cons fun n hn => ?_
        rcases mem_insertName.mp hn with rfl | hn
        · exact lt_of_le_of_ne (not_lt.mp hnot) (Ne.symm hne)
        · exact hm n hn

theorem mem_foldl_insertName {name : String} {names ns : List String} :
    name ∈ names.foldl (fun ns n => insertName n ns) ns ↔ name ∈ names ∨ name ∈ ns := by
  induction names generalizing ns with
  | nil => simp
  | cons n names ih =>
    rw [List.foldl_cons, ih, mem_insertName, List.mem_cons, or_left_comm, or_assoc]

theorem pairwise_foldl_insertName (names : List String) {ns : List String}
    (h : ns.Pairwise (· < ·)) :
    (names.foldl (fun ns n => insertName n ns) ns).Pairwise (· < ·) := by
  induction names generalizing ns with
  | nil => exact h
  | cons n names ih => exact ih (pairwise_insertName h)

/-- There is a column for every name that some row has. -/
theorem mem_columns_iff {rows : List Row} {name : String} :
    name ∈ columns rows ↔ ∃ row ∈ rows, name ∈ Members.names row := by
  rw [columns, mem_foldl_insertName, List.mem_flatMap, List.mem_nil_iff, or_false]
  rfl

/-- The columns are sorted by the bytes of their names, and each is there once. -/
theorem pairwise_columns (rows : List Row) :
    (columns rows).Pairwise fun a b => Text.bytes a < Text.bytes b :=
  (pairwise_foldl_insertName _ .nil).imp Text.bytes_lt

/-! ## Widths -/

theorem le_foldl_max {α : Type} (f : α → Nat) (xs : List α) (w : Nat) :
    w ≤ xs.foldl (fun w x => max w (f x)) w ∧
      ∀ x ∈ xs, f x ≤ xs.foldl (fun w x => max w (f x)) w := by
  induction xs generalizing w with
  | nil => exact ⟨Nat.le_refl w, nofun⟩
  | cons x xs ih =>
    obtain ⟨hmax, hxs⟩ := ih (max w (f x))
    rw [List.foldl_cons]
    exact ⟨(le_max_left _ _).trans hmax,
      List.forall_mem_cons.mpr ⟨(le_max_right _ _).trans hmax, hxs⟩⟩

/-- The name of a column fits its width. -/
theorem length_name_le_width (rows : List Row) (column : String) :
    column.length ≤ width rows column :=
  (Text.length_le_utf8ByteSize column).trans (le_foldl_max _ rows _).1

/-- Every cell fits the width of its column. -/
theorem length_cell_le_width {rows : List Row} {row : Row} (hrow : row ∈ rows) (column : String) :
    (cell row column).length ≤ width rows column :=
  (Text.length_le_utf8ByteSize _).trans
    ((le_foldl_max (fun row => (cell row column).utf8ByteSize) rows _).2 row hrow)

/-- A text that fits is filled up to the width. -/
theorem length_padded {w : Nat} {s : String} (h : s.length ≤ w) : (padded w s).length = w := by
  rw [padded, String.length_append, String.length_ofList, List.length_replicate]
  omega

/-! ## Lines -/

/-- Where a column starts that has columns of these widths before it: behind each of them stands a
separator of three characters. -/
def offset (widths : List Nat) : Nat :=
  (widths.map (· + 3)).sum

/-- Whether the whole of a text stands in a line, at an offset in a column of some width, which is
filled up with spaces. -/
def Stands (line : String) (offset width : Nat) (text : String) : Prop :=
  text.length ≤ width ∧ ∃ left right,
    line = left ++ (text ++ String.ofList (List.replicate (width - text.length) ' ')) ++ right ∧
      left.length = offset

/-- A cell of a line, with what is on both sides of it. -/
theorem intercalate_append_cons (sep : String) (xs : List String) (y : String) (zs : List String) :
    sep.intercalate (xs ++ y :: zs) =
      String.join (xs.map (· ++ sep)) ++ y ++ String.join (zs.map (sep ++ ·)) := by
  induction xs with
  | nil =>
    rw [List.nil_append, List.map_nil, String.join_nil, String.empty_append]
    induction zs generalizing y with
    | nil => simp
    | cons z zs ih =>
      rw [String.intercalate_cons_cons, ih, List.map_cons, String.join_cons, String.append_assoc,
        String.append_assoc]
  | cons x xs ih =>
    rw [List.cons_append, String.intercalate_cons_of_ne_nil (by simp), ih, List.map_cons,
      String.join_cons]
    simp only [String.append_assoc]

section

variable {sep : String} (hsep : sep.length = 3)
include hsep

/-- Cells with a separator behind each of them reach to where the next one starts. -/
theorem length_join_append (cells : List String) :
    (String.join (cells.map (· ++ sep))).length = offset (cells.map String.length) := by
  have hcell : ∀ cell : String, (cell ++ sep).length = cell.length + 3 := fun cell => by
    rw [String.length_append, hsep]
  rw [String.length_join, offset, List.map_map, List.map_map]
  exact congrArg List.sum (List.map_congr_left fun cell _ => hcell cell)

/-- A line ends where its last cell does, three characters before a next one would start. -/
theorem length_intercalate (cells : List String) :
    (sep.intercalate cells).length = offset (cells.map String.length) - 3 := by
  rcases List.eq_nil_or_concat cells with rfl | ⟨xs, y, rfl⟩
  · rw [String.intercalate_nil]
    rfl
  · have hlast : offset ((xs ++ [y]).map String.length) =
        offset (xs.map String.length) + (y.length + 3) := by
      simp [offset]
    rw [List.concat_eq_append, intercalate_append_cons, String.length_append, String.length_append,
      length_join_append hsep, hlast, List.map_nil, String.join_nil, String.length_empty]
    omega

end

/-- A line with a text in each column. -/
def line (sep : String) (rows : List Row) (text : String → String) : String :=
  sep.intercalate ((columns rows).map fun column => padded (width rows column) (text column))

theorem record_layout (rows : List Row) (text : String → String) :
    record (layout rows) text = line " │ " rows text := by
  rw [record, layout, List.map_map]
  rfl

/-- The dashes that fill a column. -/
def dashes (width : Nat) : String :=
  String.ofList (List.replicate width '─')

theorem length_dashes (width : Nat) : (dashes width).length = width := by
  rw [dashes, String.length_ofList, List.length_replicate]

theorem rule_layout (rows : List Row) :
    rule (layout rows) = line "─┼─" rows fun column => dashes (width rows column) := by
  have hpadded : ∀ w, padded w (dashes w) = dashes w := by
    intro w
    rw [padded, length_dashes, Nat.sub_self, List.replicate_zero, String.ofList_nil,
      String.append_empty]
  simp only [line, hpadded]
  rw [rule, layout, List.map_map]
  rfl

section

variable {sep : String} {rows : List Row} {text : String → String}

/-- Texts that fit fill their columns. -/
theorem map_length_padded {names : List String}
    (hfits : ∀ column ∈ names, (text column).length ≤ width rows column) :
    (names.map fun column => padded (width rows column) (text column)).map String.length =
      names.map (width rows) := by
  rw [List.map_map]
  exact List.map_congr_left fun column hcolumn => length_padded (hfits column hcolumn)

/-- A line with separators of three characters and texts that fit is as long as all columns and the
separators between them. -/
theorem length_line (hsep : sep.length = 3)
    (hfits : ∀ column ∈ columns rows, (text column).length ≤ width rows column) :
    (line sep rows text).length = offset ((columns rows).map (width rows)) - 3 := by
  rw [line, length_intercalate hsep, map_length_padded hfits]

/-- In such a line every text stands in its column. -/
theorem stands_line (hsep : sep.length = 3)
    (hfits : ∀ column ∈ columns rows, (text column).length ≤ width rows column)
    {before after : List String} {column : String}
    (hcolumns : columns rows = before ++ column :: after) :
    Stands (line sep rows text) (offset (before.map (width rows))) (width rows column)
      (text column) := by
  have hbefore : ∀ c ∈ before, (text c).length ≤ width rows c := fun c hc =>
    hfits c (hcolumns ▸ List.mem_append_left _ hc)
  have hcolumn : column ∈ columns rows := hcolumns ▸ List.mem_append_right _ List.mem_cons_self
  have hline : line sep rows text =
      String.join ((before.map fun c => padded (width rows c) (text c)).map (· ++ sep)) ++
        padded (width rows column) (text column) ++
          String.join ((after.map fun c => padded (width rows c) (text c)).map (sep ++ ·)) := by
    rw [line, hcolumns, List.map_append, List.map_cons, intercalate_append_cons]
  refine ⟨hfits column hcolumn, _, _, hline, ?_⟩
  rw [length_join_append hsep, map_length_padded hbefore]

end

end Table

namespace Output

open Table

/-- Rows are printed as a header, a line, a record for each row and their number. There is one
column for each name that some row has, in the order of the bytes of the names. All lines of the
table have the same number of characters, and every column starts at one offset in all of them;
there the whole text of the name, the dashes and the whole text of each cell stand. -/
theorem rowLines_aligned {rows : List Row} (hrows : rows ≠ []) :
    ∃ (header rule : String) (record : Row → String),
      rowLines rows = header :: rule :: rows.map record ++
        ["", toString rows.length ++ " row(s) returned"] ∧
      (columns rows).Pairwise (fun a b => Text.bytes a < Text.bytes b) ∧
      (∀ name, name ∈ columns rows ↔ ∃ row ∈ rows, name ∈ Members.names row) ∧
      rule.length = header.length ∧ (∀ row ∈ rows, (record row).length = header.length) ∧
      ∀ before column after, columns rows = before ++ column :: after →
        let start := offset (before.map (width rows))
        Stands header start (width rows column) column ∧
          Stands rule start (width rows column) (dashes (width rows column)) ∧
          ∀ row ∈ rows, Stands (record row) start (width rows column) (cell row column) := by
  have hnames : ∀ column ∈ columns rows, (id column).length ≤ width rows column :=
    fun column _ => length_name_le_width rows column
  have hdashes : ∀ column ∈ columns rows,
      (dashes (width rows column)).length ≤ width rows column :=
    fun column _ => (length_dashes _).le
  have hcells : ∀ row ∈ rows, ∀ column ∈ columns rows,
      (cell row column).length ≤ width rows column :=
    fun row hrow column _ => length_cell_le_width hrow column
  refine ⟨line " │ " rows id, line "─┼─" rows fun column => dashes (width rows column),
    fun row => line " │ " rows (cell row), ?_, pairwise_columns rows, fun _ => mem_columns_iff,
    ?_, fun row hrow => ?_, fun before column after hcolumns => ⟨?_, ?_, fun row hrow => ?_⟩⟩
  · rw [rowLines, if_neg (by simpa using hrows), Table.lines, record_layout, rule_layout]
    simp only [record_layout]
  · rw [length_line rfl hdashes, length_line rfl hnames]
  · rw [length_line rfl (hcells row hrow), length_line rfl hnames]
  · exact stands_line rfl hnames hcolumns
  · exact stands_line rfl hdashes hcolumns
  · exact stands_line rfl (hcells row hrow) hcolumns

/-- Two rows, each without a column of the other, and a name with more bytes than characters. -/
private def sampleTable : List Row :=
  [[("name", .text "Zoë"), ("id", .integer 7)], [("naïve", .null), ("id", .integer 12345)]]

/-- The second column starts in all records at the ninth character, also where it is missing. -/
theorem rowLines_aligned_missing :
    sampleTable ≠ [] ∧ columns sampleTable = ["id", "name", "naïve"] ∧
      ∃ (header rule : String) (record : Row → String),
        rowLines sampleTable = header :: rule :: sampleTable.map record ++
          ["", toString sampleTable.length ++ " row(s) returned"] ∧
        (∀ row ∈ sampleTable, (record row).length = header.length) ∧
        ∀ row ∈ sampleTable, Stands (record row) 8 4 (cell row "name") := by
  have hrows : sampleTable ≠ [] := by simp [sampleTable]
  have hcolumns : columns sampleTable = ["id", "name", "naïve"] := by decide +kernel
  obtain ⟨header, rule, record, hlines, -, -, -, hlength, hstands⟩ := rowLines_aligned hrows
  obtain ⟨-, -, hcells⟩ := hstands ["id"] "name" ["naïve"] hcolumns
  have hstart : offset (["id"].map (width sampleTable)) = 8 := by decide +kernel
  have hwidth : width sampleTable "name" = 4 := by decide +kernel
  rw [hstart, hwidth] at hcells
  exact ⟨hrows, hcolumns, header, rule, record, hlines, hlength, hcells⟩

example : Table.lines sampleTable =
    ["id    │ name │ naïve ", "──────┼──────┼───────", "7     │ Zoë  │       ",
      "12345 │      │ NULL  "] := by
  decide +kernel

end Output

end FilterSql
