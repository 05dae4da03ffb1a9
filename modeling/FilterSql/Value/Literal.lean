import FilterSql.Dialect
import FilterSql.Value.Text

/-!
# SQL literals

A value as SQL text. Everything that is text of the caller's stands between quotes; an array is
its items with commas between them, on one level whatever its nesting.
-/

namespace FilterSql.Value

mutual

/-- The literal of a value. -/
def literal (d : Dialect) : Value → String
  | null => "NULL"
  | bool b => d.truth b
  | int n => toString n.toInt
  | float x => x.text
  | text s => quoteString s
  | dateTime t => d.dateLiteral (quoteString t.text)
  | array items => String.intercalate "," (literals d items)
  | json document => quoteString document.compact
  | deferred (deferred _) => "NULL"
  | deferred v => literal d v

def literals (d : Dialect) : List Value → List String
  | [] => []
  | v :: vs => literal d v :: literals d vs

end

end FilterSql.Value
