import FilterSql.Fragment
import FilterSql.Payload

/-!
# Writing a payload

An insert lists columns and their values, an update assigns to each column. Entries without a value
are skipped. Payload columns are always quoted, whatever they look like.
-/

namespace FilterSql

/-- A column and the SQL that is written to it. -/
structure Assignment where
  /-- The quoted column. -/
  column : String
  value : Fragment

namespace Entry

/-- What an insert writes for an entry with this value. A change of a column that is not there
yet is the value itself. -/
def inserted? (change : Change) (v : Value) : Option Fragment :=
  match change with
  | .assign | .raise | .lower => some (Fragment.bind v)
  | .add | .subtract | .multiply | .divide => some (Fragment.bind v.resolve.operand)
  | .toggle => some [.truth false]
  | .raw => some [.text v.resolve.rawText]
  | .rawUpdate => none

/-- What an update writes to a column. -/
def updated (change : Change) (column : String) (v : Value) : Fragment :=
  let arithmetic (operator : String) : Fragment :=
    .text ("COALESCE(" ++ column ++ ",0) " ++ operator ++ " ") :: Fragment.bind v.resolve.operand
  match change with
  | .assign => Fragment.bind v
  | .add => arithmetic "+"
  | .subtract => arithmetic "-"
  | .multiply => arithmetic "*"
  | .divide => arithmetic "/"
  | .raise => .text ("GREATEST(" ++ column ++ ",") :: (Fragment.bind v ++ [.text ")"])
  | .lower => .text ("LEAST(" ++ column ++ ",") :: (Fragment.bind v ++ [.text ")"])
  | .toggle =>
    [.text ("CASE " ++ column ++ " WHEN "), .truth true, .text " THEN ", .truth false,
      .text " ELSE ", .truth true, .text " END"]
  | .raw | .rawUpdate => [.text v.resolve.rawText]

/-- The assignment of an entry in an insert. -/
def insertion? (e : Entry) : Option Assignment := do
  return ⟨quoteIdentifier e.column, ← inserted? e.change (← e.value)⟩

/-- The assignment of an entry in an update. -/
def update? (e : Entry) : Option Assignment := do
  let column := quoteIdentifier e.column
  return ⟨column, updated e.change column (← e.value)⟩

end Entry

namespace Payload

/-- The assignments of an insert, in order. -/
def insertions (p : Payload) : List Assignment :=
  p.filterMap Entry.insertion?

/-- The assignments of an update, in order. -/
def updates (p : Payload) : List Assignment :=
  p.filterMap Entry.update?

end Payload

/-- `column = value`. -/
def Assignment.fragment (a : Assignment) : Fragment :=
  .text (a.column ++ " = ") :: a.value

end FilterSql
