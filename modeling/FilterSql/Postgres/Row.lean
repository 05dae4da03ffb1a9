import FilterSql.DateTime
import FilterSql.Output
import FilterSql.Postgres.Numeric

/-!
# Rows from PostgreSQL

A column has a name and a type, and a cell is NULL, a decoded value, or something that the type
does not decode. Cells are read as JSON by the type of their column. Cells of one name share a
place in the row, where the last of them stays; a cell that cannot be decoded is read as null.
-/

namespace FilterSql

/-- A column of a result. -/
structure PgColumn where
  name : String
  /-- The name of its type. -/
  type : String
  deriving DecidableEq, Repr

/-- A cell as the driver decodes it for the type that is asked for. -/
inductive PgCell where
  /-- SQL NULL. -/
  | null
  | bool (b : Bool)
  | int2 (n : Int16)
  | int4 (n : Int32)
  | int8 (n : Int64)
  | float4 (x : Binary64)
  | float8 (x : Binary64)
  | numeric (n : Numeric)
  | timestamp (t : DateTime)
  /-- In universal time. -/
  | timestampTz (t : DateTime)
  | date (d : Date)
  | json (document : Json)
  /-- The sixteen bytes of a UUID as one number. -/
  | uuid (n : Nat)
  | text (s : String)
  /-- Not a value of the type. -/
  | undecodable

namespace PgCell

/-- The hexadecimal digits of a UUID in groups of 8, 4, 4, 4 and 12. -/
def uuidText (n : Nat) : String :=
  let ds := Nat.toDigits 16 n
  let ds := List.replicate (32 - ds.length) '0' ++ ds
  let part (start length : Nat) : String := String.ofList ((ds.drop start).take length)
  String.intercalate "-" [part 0 8, part 8 4, part 12 4, part 16 4, part 20 12]

/-- The value of a cell in a column of a type. NULL, and a cell of another type, has none. -/
def value? (type : String) (cell : PgCell) : Option Json :=
  match type, cell with
  | "BOOL", bool b => some (.bool b)
  | "INT2", int2 n => some (.integer n.toInt)
  | "INT4", int4 n => some (.integer n.toInt)
  | "INT8", int8 n => some (.integer n.toInt)
  | "FLOAT4", float4 x => some (.ofBinary64 x)
  | "FLOAT8", float8 x => some (.ofBinary64 x)
  | "NUMERIC", numeric n => some n.toJson
  | "TIMESTAMP", timestamp t => some (.text t.text)
  | "TIMESTAMPTZ", timestampTz t => some (.text t.text)
  | "DATE", date d => some (.text d.text)
  | "JSON", json document => some document
  | "JSONB", json document => some document
  | "UUID", uuid n => some (.text (uuidText n))
  | "BOOL", _ | "INT2", _ | "INT4", _ | "INT8", _ | "FLOAT4", _ | "FLOAT8", _ | "NUMERIC", _
  | "TIMESTAMP", _ | "TIMESTAMPTZ", _ | "DATE", _ | "JSON", _ | "JSONB", _ | "UUID", _ => none
  | _, text s => some (.text s)
  | _, _ => none

end PgCell

/-- The row of the cells of one result row. -/
def Row.ofCells (cells : List (PgColumn × PgCell)) : Row :=
  Members.ofAssignments <|
    cells.map fun (column, cell) => (column.name, (cell.value? column.type).getD .null)

end FilterSql
