import FilterSql.Dialect
import FilterSql.Payload
import FilterSql.Table

/-!
# The sigil reference

A table of the changes that a payload can make: the key that asks for one, its name, what it does,
and what an update writes for it.
-/

namespace FilterSql

namespace Change

def all : List Change :=
  [assign, add, subtract, multiply, divide, raise, lower, toggle, raw, rawUpdate]

/-- The name of a change. -/
def name : Change → String
  | assign => "Set"
  | add => "Add"
  | subtract => "Subtract"
  | multiply => "Multiply"
  | divide => "Divide"
  | raise => "Greatest"
  | lower => "Least"
  | toggle => "Toggle"
  | raw => "Raw"
  | rawUpdate => "RawUpdate"

def ofName? (s : String) : Option Change :=
  all.find? (·.name = s)

/-- What a change does. -/
def summary : Change → String
  | assign => "Assign the value"
  | add => "Increment"
  | subtract => "Decrement"
  | multiply => "Scale up"
  | divide => "Scale down"
  | raise => "Raise to at least"
  | lower => "Lower to at most"
  | toggle => "Flip 0/1"
  | raw => "Raw SQL, insert and update"
  | rawUpdate => "Raw SQL, update only"

/-- What an update writes, for a column `col` and a placeholder `:n`. -/
def sample? (change : Change) : Option String :=
  let column := quoteIdentifier "col"
  match change with
  | assign => some (column ++ " = :n")
  | add | subtract | multiply | divide =>
    change.operator?.map fun operator => "COALESCE(" ++ column ++ ",0) " ++ operator ++ " :n"
  | raise => some ("GREATEST(" ++ column ++ ",:n)")
  | lower => some ("LEAST(" ++ column ++ ",:n)")
  | toggle => some (Dialect.oracle.toggle column)
  | raw | rawUpdate => none

end Change

namespace Sigils

/-- A line of the reference. -/
def line (key name summary sql : String) : String :=
  String.intercalate " " [Table.padded 8 key, Table.padded 12 name, Table.padded 28 summary, sql]

/-- The line of a change. -/
def changeLine (change : Change) : String :=
  line (String.ofList (Entry.joinKey change "col".toList)) change.name change.summary
    (change.sample?.getD "<value as SQL>")

/-- The lines of the reference. -/
def lines : List String :=
  ["qfilter mutation sigils", "", line "Key" "Op" "Function" "SQL Equivalent",
    String.ofList (List.replicate 80 '─')] ++ Change.all.map changeLine

end Sigils

end FilterSql
