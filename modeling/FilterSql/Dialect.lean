import FilterSql.Error
import FilterSql.Text.Quoted

/-!
# SQL dialects

What Oracle and PostgreSQL write differently: placeholders, truth values, moments, pages, and the
columns that a write gives back. Identifiers and string literals are quoted alike.
-/

namespace FilterSql

/-- An identifier between double quotes, with the quotes in it doubled. -/
def quoteIdentifier (name : String) : String :=
  String.ofList (Text.enclose '"' name.toList)

/-- A text as a string literal, with the quotes in it doubled. -/
def quoteString (s : String) : String :=
  String.ofList (Text.enclose '\'' s.toList)

/-- The text of a string literal. -/
def unquoteString? (literal : String) : Option String :=
  (Text.disclose? '\'' literal.toList).map String.ofList

/-- A dialect of SQL. -/
inductive Dialect where
  | oracle
  | postgres
  deriving DecidableEq, Repr

namespace Dialect

def name : Dialect → String
  | oracle => "oracle"
  | postgres => "postgres"

/-- The dialect of a name, in any case. -/
def parse (s : String) : Except Error Dialect :=
  match s.toLower with
  | "oracle" => .ok oracle
  | "postgres" => .ok postgres
  | "postgresql" => .ok postgres
  | "pg" => .ok postgres
  | other => .error (.config ("unknown dialect '" ++ other ++ "'"))

/-- The character that starts a placeholder. -/
def placeholderLead : Dialect → Char
  | oracle => ':'
  | postgres => '$'

/-- The placeholder of a parameter, counted from 1. -/
def placeholder (d : Dialect) (n : Nat) : String :=
  d.placeholderLead.toString ++ toString n

/-- A truth value; Oracle has none in SQL and uses numbers. -/
def truth : Dialect → Bool → String
  | oracle, b => if b then "1" else "0"
  | postgres, b => if b then "TRUE" else "FALSE"

/-- A moment, from its quoted text. -/
def dateLiteral : Dialect → String → String
  | oracle, quoted => "TO_DATE(" ++ quoted ++ ", 'YYYY-MM-DD HH24:MI:SS')"
  | postgres, quoted => "TIMESTAMP " ++ quoted

/-- The end of a statement that limits its rows. -/
def page : Dialect → (take skip : Option Nat) → String
  | oracle, some take, some skip =>
    " OFFSET " ++ toString skip ++ " ROWS FETCH NEXT " ++ toString take ++ " ROWS ONLY"
  | oracle, some take, none => " FETCH FIRST " ++ toString take ++ " ROWS ONLY"
  | oracle, none, some skip => " OFFSET " ++ toString skip ++ " ROWS"
  | oracle, none, none => ""
  | postgres, take, skip =>
    (match take with | some n => " LIMIT " ++ toString n | none => "") ++
      (match skip with | some n => " OFFSET " ++ toString n | none => "")

/-- Whether the columns that a write gives back come through output parameters. -/
def bindsReturned : Dialect → Bool
  | oracle => true
  | postgres => false

/-- The end of a write that gives back columns, into the given placeholders where the dialect wants
them. -/
def returning : Dialect → (columns outs : List String) → String
  | oracle, columns, outs =>
    " RETURNING " ++ String.intercalate "," columns ++ " INTO " ++ String.intercalate "," outs
  | postgres, columns, _ => " RETURNING " ++ String.intercalate "," columns

/-- The other truth value of a column; null turns to true. -/
def toggle (d : Dialect) (column : String) : String :=
  "CASE " ++ column ++ " WHEN " ++ d.truth true ++ " THEN " ++ d.truth false ++ " ELSE " ++
    d.truth true ++ " END"

end Dialect

end FilterSql
