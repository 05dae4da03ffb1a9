import FilterSql.Json.Text
import FilterSql.Output

/-!
# Tables

Rows as a table of text: a header, a line, and a record for each row. There is a column for every
name that some row has. A column is as wide as its longest text has bytes, and texts are filled up
by characters, so every record has the same number of characters: a text never has more characters
than bytes.
-/

namespace FilterSql

/-- A cell as it is shown: a text as it is, null as NULL, and everything else as JSON. -/
def Json.shown : Json → String
  | null => "NULL"
  | text s => s
  | j => j.compact

namespace Table

/-- Puts a name into its place in a sorted list, unless it is there. -/
def insertName (name : String) : List String → List String
  | [] => [name]
  | n :: ns =>
    if name = n then n :: ns
    else if name < n then name :: n :: ns
    else n :: insertName name ns

/-- The names of all columns, in order and each once. -/
def columns (rows : List Row) : List String :=
  (rows.flatMap fun row => row.map (·.1)).foldl (fun ns n => insertName n ns) []

/-- The text of a cell; nothing where the row does not have the column. -/
def cell (row : Row) (column : String) : String :=
  ((row.lookup column).map Json.shown).getD ""

/-- The width of a column. -/
def width (rows : List Row) (column : String) : Nat :=
  rows.foldl (fun w row => max w (cell row column).utf8ByteSize) column.utf8ByteSize

/-- The columns with their widths. -/
def layout (rows : List Row) : List (String × Nat) :=
  (columns rows).map fun column => (column, width rows column)

/-- A text filled up with spaces. -/
def padded (width : Nat) (s : String) : String :=
  s ++ String.ofList (List.replicate (width - s.length) ' ')

/-- A record with a text in each column. -/
def record (layout : List (String × Nat)) (text : String → String) : String :=
  String.intercalate " │ " (layout.map fun (column, width) => padded width (text column))

/-- The line below the header. -/
def rule (layout : List (String × Nat)) : String :=
  String.intercalate "─┼─" (layout.map fun (_, width) => String.ofList (List.replicate width '─'))

/-- The lines of a table. -/
def lines (rows : List Row) : List String :=
  let layout := layout rows
  record layout id :: rule layout :: rows.map fun row => record layout (cell row)

end Table

end FilterSql
