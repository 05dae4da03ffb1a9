import FilterSql.Condition.Basic
import FilterSql.Exec
import FilterSql.Payload

/-!
# Descriptors

A descriptor says what to do with a table: the operation and everything the operation may need.
-/

namespace FilterSql

/-- An aggregate function and its keys. -/
structure ScalarSpec where
  aggregate : Aggregate
  key : Option String := none
  key2 : Option String := none

/-- Everything needed to compile one operation. -/
structure Descriptor where
  table : String := ""
  schema : Option String := none
  exec : Exec := .find
  fields : Option (List String) := none
  sort : Option (List String) := none
  conditions : List Condition := []
  payload : Option Payload := none
  scalar : Option ScalarSpec := none
  query : Option String := none
  params : List Value := []
  take : Option Nat := none
  skip : Option Nat := none
  returning : Option (List String) := none
  primaryKey : Option String := none
  language : Option String := none
  /-- Give the rows that a write returns as a single row. -/
  first : Bool := false
  /-- Log the statement for the operator to see. -/
  debug : Bool := false

namespace Descriptor

/-- The table with its schema before it, if it has one. -/
def qualifiedTable (d : Descriptor) : String :=
  match d.schema with
  | some schema => if schema.isEmpty then d.table else schema ++ "." ++ d.table
  | none => d.table

/-- The columns that a write gives back: the listed ones, else the primary key. -/
def returningColumns (d : Descriptor) : List String :=
  let key := match d.primaryKey with
    | some key => if key.isEmpty then [] else [key]
    | none => []
  match d.returning with
  | some (c :: cs) => c :: cs
  | _ => key

/-- The code of the language for localized columns. -/
def languageCode (d : Descriptor) : String :=
  d.language.getD ""

end Descriptor

end FilterSql
