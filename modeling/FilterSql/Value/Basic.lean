import FilterSql.DateTime
import FilterSql.Json.Basic

/-!
# Values

What a condition compares with, a payload writes and a raw query carries. A deferred value stands
for the value it yields when a statement is compiled; it yields the same value each time, so it is
held as that value. Resolving looks through one level: a deferred value that yields another
deferred value is null.
-/

namespace FilterSql

/-- A value bound into a statement. -/
inductive Value where
  | null
  | bool (b : Bool)
  | int (n : Int64)
  | float (x : Binary64)
  | text (s : String)
  | dateTime (t : DateTime)
  | array (items : List Value)
  /-- Any other composite value. -/
  | json (document : Json)
  /-- A value that is only known when the statement is compiled, with what it yields. -/
  | deferred (yields : Value)

namespace Value

instance : Inhabited Value := ⟨.null⟩

/-- The value itself, or what it yields if it is deferred. -/
def resolve : Value → Value
  | deferred (deferred _) => null
  | deferred v => v
  | v => v

def isNull : Value → Bool
  | null => true
  | _ => false

/-- Whether the value counts as zero in arithmetic: null, false, zero, NaN and the empty text. -/
def isFalsy : Value → Bool
  | null => true
  | bool b => !b
  | int n => n == 0
  | float x => x.isZero || x.isNaN
  | text s => s.isEmpty
  | _ => false

/-- The operand of an arithmetic change: zero for a value that counts as zero. -/
def operand (v : Value) : Value :=
  if v.isFalsy then .int 0 else v

end Value

end FilterSql
