import FilterSql.Table

/-!
# Printed outputs

An output is printed as JSON, or for a reader: rows as a table with their number below it, and
everything else on a line.
-/

namespace FilterSql

/-- How an output is printed. -/
inductive OutputFormat where
  | table
  | json
  deriving DecidableEq, Repr

def OutputFormat.ofName? : String → Option OutputFormat
  | "table" => some table
  | "json" => some json
  | _ => none

namespace Output

/-- Stands for an output that has nothing in it. -/
def noResults : String := "(no results)"

/-- Rows for a reader. -/
def rowLines (rows : List Row) : List String :=
  if rows.isEmpty then [noResults]
  else Table.lines rows ++ ["", toString rows.length ++ " row(s) returned"]

/-- An output for a reader. -/
def readerLines : Output → List String
  | rows rs => rowLines rs
  | row (some r) => rowLines [r]
  | row none | value none | count none => [noResults]
  | value (some j) => [j.shown]
  | count (some n) => [toString n]
  | found b => [if b then "true" else "false"]
  | affected n => ["✓ " ++ toString n ++ " rows affected"]
  | list items n => rowLines items ++ [toString n ++ " total"]

/-- The lines of an output. -/
def lines (format : OutputFormat) (o : Output) : List String :=
  match format with
  | .table => o.readerLines
  | .json => [o.toJson.pretty]

end Output

/-- Lines as printed text. -/
def printed (lines : List String) : String :=
  String.join (lines.map (· ++ "\n"))

end FilterSql
