import FilterSql.Exec
import FilterSql.Json.Basic
import FilterSql.Value.Json

/-!
# Statements

A compiled statement: its text, the parameters that its placeholders stand for, and what its
executor has to know about it.
-/

namespace FilterSql

/-- Whether a statement changes anything. -/
inductive StatementKind where
  | read
  | write
  deriving DecidableEq, Repr

def StatementKind.name : StatementKind → String
  | read => "read"
  | write => "write"

/-- A parameter of a statement. -/
inductive Param where
  | input (value : Value)
  /-- Receives a column that the write gives back. -/
  | output (column : String)

def Param.value? : Param → Option Value
  | input v => some v
  | output _ => none

/-- SQL text with its parameters in order. -/
structure Statement where
  text : String
  params : List Param
  kind : StatementKind
  exec : Exec
  /-- The columns that the write gives back, as the descriptor names them. -/
  returning : List String

namespace Statement

/-- The input values, in order. -/
def values (s : Statement) : List Value :=
  s.params.filterMap Param.value?

/-- Whether an executor has to fetch rows, and not only count the affected ones. -/
def fetches (s : Statement) : Bool :=
  s.kind = .read || !s.returning.isEmpty

/-- The first characters of the text. -/
def preview (s : Statement) (characters : Nat) : String :=
  String.ofList (s.text.toList.take characters)

end Statement

/-- A value as its document, an output as the column it receives. -/
def Param.toJson : Param → Json
  | input v => v.toJson
  | output column => .object [("column", .text column)]

/-- The statement as a document. -/
def Statement.toJson (s : Statement) : Json :=
  .object [
    ("text", .text s.text),
    ("params", .array (s.params.map Param.toJson)),
    ("kind", .text s.kind.name),
    ("returning", .array (s.returning.map .text))]

end FilterSql
