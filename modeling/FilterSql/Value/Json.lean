import FilterSql.Value.Basic
import FilterSql.Word64

/-!
# Values and JSON documents

A document is read as a value by its kind: an integer that fits 64 bits is an integer, every other
number a floating-point number, an array an array of values, and an object stays a document. In
the other direction a moment is its text, a number that JSON cannot write is null, and a deferred
value is whatever it yields in the end.
-/

namespace FilterSql.Value

mutual

/-- The value of a document. -/
def ofJson : Json → Value
  | .null => null
  | .bool b => bool b
  | .integer n =>
    if isInt64 n then int (Int64.ofInt n) else float (Binary64.ofInt n)
  | .float x => float x
  | .text s => text s
  | .array items => array (ofJsons items)
  | .object members => json (.object members)

def ofJsons : List Json → List Value
  | [] => []
  | j :: js => ofJson j :: ofJsons js

end

mutual

/-- The document of a value. -/
def toJson : Value → Json
  | null => .null
  | bool b => .bool b
  | int n => .integer n.toInt
  | float x => .ofBinary64 x
  | text s => .text s
  | dateTime t => .text t.text
  | array items => .array (toJsons items)
  | json document => document
  | deferred v => toJson v

def toJsons : List Value → List Json
  | [] => []
  | v :: vs => toJson v :: toJsons vs

end

end FilterSql.Value
