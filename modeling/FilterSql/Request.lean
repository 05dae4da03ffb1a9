import FilterSql.Assignment
import FilterSql.Descriptor.Basic
import FilterSql.Error
import FilterSql.Text.Blank

/-!
# Checked requests

Before any name is looked up a descriptor is checked for its operation, and what the operation
needs is taken out of it. Every error of a compilation except one arises here; the other is a
condition of an unknown kind.
-/

namespace FilterSql

/-- What an operation needs besides table and filter. -/
inductive Request where
  /-- Rows with these columns, or with all of them where none is named. -/
  | select (fields : List String)
  | count
  | insert (assignments : List Assignment)
  | update (assignments : List Assignment)
  | remove
  | drop
  | truncate
  /-- One value; without a key it is over the rows themselves. -/
  | aggregate (function : Aggregate) (key : Option String)
  /-- A value for each group: the sum of a column, or the number of rows. -/
  | group (key : String) (sum : Option String)
  | template (text : String)

namespace Descriptor

/-- A key that is there and not empty. -/
def presentKey (key : Option String) : Option String :=
  key.filter (!·.isEmpty)

/-- The request of an aggregate operation. -/
def scalarRequest (d : Descriptor) : Except Error Request :=
  match d.scalar with
  | none => .error (.missingScalar d.table)
  | some spec =>
    match spec.aggregate with
    | .group =>
      match presentKey spec.key with
      | some key => .ok (.group key (presentKey spec.key2))
      | none => .error (.unsupportedScalar "group requires a key")
    | function =>
      if (presentKey spec.key2).isSome then
        .error (.unsupportedScalar ("key2 is only valid with group, not " ++ function.name))
      else .ok (.aggregate function ((presentKey spec.key).filter (· ≠ "*")))

/-- The request of an operation, if the descriptor has what it needs. -/
def request (d : Descriptor) (mode : BindMode) (exec : Exec) : Except Error Request :=
  if exec ≠ .query ∧ Text.isBlankText d.table then
    .error (.invalidDescriptor "table name is empty")
  else if exec = .query ∧ mode = .inline ∧ !d.params.isEmpty then
    .error (.inlineParams d.params.length)
  else match exec with
    | .find | .read | .list => .ok (.select (d.fields.getD []))
    | .count | .check => .ok .count
    | .insert =>
      match (d.payload.getD []).insertions with
      | [] => .error (.emptyPayload .insert d.table)
      | assignments => .ok (.insert assignments)
    | .update =>
      match (d.payload.getD []).updates with
      | [] => .error (.emptyPayload .update d.table)
      | assignments => .ok (.update assignments)
    | .remove => .ok .remove
    | .drop => .ok .drop
    | .truncate => .ok .truncate
    | .scalar => d.scalarRequest
    | .query =>
      match d.query.filter (!Text.isBlankText ·) with
      | some text => .ok (.template text)
      | none => .error (.missingQuery d.table)

end Descriptor

end FilterSql
