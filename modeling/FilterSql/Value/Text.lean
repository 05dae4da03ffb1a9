import FilterSql.Binary64.Text
import FilterSql.Json.Text
import FilterSql.Value.Basic

/-!
# The text of a value

`Value.rawText` is the value as trusted SQL text, without quotes. `Value.display` is the value as
it is shown to a reader: texts and moments between quotes, arrays in brackets, and a deferred
value not evaluated.
-/

namespace FilterSql.Value

mutual

/-- The value without quotes; an array is its items with commas between them. -/
def rawText : Value → String
  | null => "NULL"
  | bool b => if b then "true" else "false"
  | int n => toString n.toInt
  | float x => x.text
  | text s => s
  | dateTime t => t.text
  | array items => String.intercalate "," (rawTexts items)
  | json document => document.compact
  | deferred v => rawText v

def rawTexts : List Value → List String
  | [] => []
  | v :: vs => rawText v :: rawTexts vs

end

mutual

/-- The value as it is shown. Quotes inside a text are not doubled. -/
def display : Value → String
  | text s => "'" ++ s ++ "'"
  | dateTime t => "'" ++ t.text ++ "'"
  | array items => "[" ++ String.intercalate ", " (displays items) ++ "]"
  | deferred _ => "(LAZY)"
  | v => v.rawText

def displays : List Value → List String
  | [] => []
  | v :: vs => display v :: displays vs

end

end FilterSql.Value
