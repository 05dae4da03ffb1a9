import FilterSql.Descriptor.Basic
import FilterSql.Json.Basic
import FilterSql.Text.Blank
import FilterSql.Word64

/-!
# Results and their shapes

An executor answers a statement with rows and a number of affected rows. What of it the caller gets
depends on the operation: rows, one row, one value, a number, or whether there is anything.
-/

namespace FilterSql

/-- One row of a result: its cells by column name, each name once. -/
abbrev Row := Members Json

namespace Row

/-- Whether two names differ at most in the case of ASCII letters. -/
def sameName (a b : String) : Bool :=
  a.toLower = b.toLower

/-- The cell of a column. A name in another case is taken where there is none in this one. -/
def field? (row : Row) (name : String) : Option Json :=
  match row.lookup name with
  | some j => some j
  | none => (row.find? fun cell => sameName cell.1 name).map (·.2)

end Row

/-- What an executor answers to one statement. -/
structure Result where
  rows : List Row := []
  affected : Nat := 0

/-- A result of rows, all of which count as affected. -/
def Result.ofRows (rows : List Row) : Result :=
  { rows, affected := rows.length }

/-- The result of an operation, in the shape that the operation has. -/
inductive Output where
  | rows (rows : List Row)
  | row (row : Option Row)
  | value (value : Option Json)
  | count (count : Option Nat)
  | found (isFound : Bool)
  | affected (number : Nat)
  | list (items : List Row) (count : Nat)

/-- A natural number of 64 bits in decimal digits, perhaps after a plus sign. -/
def parseCount? (s : String) : Option Nat :=
  let digits := match s.toList with
    | '+' :: ds => ds
    | ds => ds
  if digits.isEmpty || !digits.all Char.isDigit then none
  else
    let n := digits.foldl (fun n c => 10 * n + (c.toNat - 48)) 0
    if isUInt64 n then some n else none

/-- A cell as a number of rows. Numbers lose their fraction; texts may have blanks around them. -/
def Json.count? : Json → Option Nat
  | integer n => if n < 0 then none else some n.toNat
  | float x => x.toCount?
  | text s => parseCount? (Text.trim s)
  | _ => none

namespace Result

/-- A cell of the first row. -/
def firstField? (r : Result) (name : String) : Option Json :=
  r.rows.head?.bind (·.field? name)

/-- The number of rows that a count found. -/
def count? (r : Result) : Option Nat :=
  (r.firstField? "COUNT").bind Json.count?

end Result

namespace Output

/-- The rows that an update or remove gives back. -/
def returned (d : Descriptor) (r : Result) : Output :=
  if d.first then row r.rows.head? else rows r.rows

/-- The output of an operation of one statement. -/
def ofResult (d : Descriptor) (exec : Exec) (r : Result) : Output :=
  match exec with
  | .insert =>
    match d.returning.getD [], d.primaryKey.filter (!·.isEmpty) with
    | _ :: _, _ => row r.rows.head?
    | [], some key => value (r.firstField? key)
    | [], none => affected r.affected
  | .update | .remove =>
    if d.returningColumns.isEmpty then affected r.affected else returned d r
  | .check => found (r.count?.any (· > 0))
  | .count => count r.count?
  | .scalar =>
    match d.scalar.map ScalarSpec.aggregate with
    | some .group => rows r.rows
    | _ => value (r.firstField? "VALUE")
  | .drop | .truncate => affected r.affected
  | .find | .read | .list | .query => rows r.rows

/-- The output of a list: its rows and their number, which is 0 where the count has none. -/
def ofList (data number : Result) : Output :=
  list data.rows (number.count?.getD 0)

/-- A row as a document, its columns in order. -/
def sortRow (row : Row) : Row :=
  row.mergeSort fun a b => a.1 ≤ b.1

def optionJson (j : Option Json) : Json :=
  j.getD .null

def rowJson (row : Row) : Json :=
  .object (sortRow row)

/-- The content of an output as a document. -/
def toJson : Output → Json
  | rows rs => .array (rs.map rowJson)
  | row r => optionJson (r.map rowJson)
  | value v => optionJson v
  | count n => optionJson (n.map fun n => .integer n)
  | found b => .bool b
  | affected n => .integer n
  | list items n => .object [("items", .array (items.map rowJson)), ("count", .integer n)]

end Output

end FilterSql
