import FilterSql.Value.Json

/-!
# PostgreSQL arguments

The type under which a value is sent to PostgreSQL. An array whose items are scalars of one type is
sent as an array of that type, where integers may stand among floating-point numbers; any other
array, and an empty one, is sent as JSON.
-/

namespace FilterSql

/-- A value with the type it is sent under. -/
inductive Argument where
  | null
  | bool (b : Bool)
  | int (n : Int64)
  | float (x : Binary64)
  | text (s : String)
  | timestamp (t : DateTime)
  | json (document : Json)
  | bools (items : List Bool)
  | ints (items : List Int64)
  | floats (items : List Binary64)
  | texts (items : List String)

namespace Value

def asBool? : Value → Option Bool
  | bool b => some b
  | _ => none

def asInt? : Value → Option Int64
  | int n => some n
  | _ => none

def asFloat? : Value → Option Binary64
  | float x => some x
  | int n => some (Binary64.ofInt n.toInt)
  | _ => none

def asText? : Value → Option String
  | text s => some s
  | _ => none

end Value

namespace Argument

/-- Reads every item, or none of them. -/
def readAll {α β : Type} (read : α → Option β) : List α → Option (List β)
  | [] => some []
  | x :: xs => do
    let y ← read x
    return y :: (← readAll read xs)

/-- The argument of an array of resolved items. -/
def ofItems (items : List Value) : Argument :=
  if items.isEmpty then json (.array [])
  else if let some bs := readAll Value.asBool? items then bools bs
  else if let some ns := readAll Value.asInt? items then ints ns
  else if let some xs := readAll Value.asFloat? items then floats xs
  else if let some ss := readAll Value.asText? items then texts ss
  else json (.array (Value.toJsons items))

/-- The argument of a value. -/
def ofValue (v : Value) : Argument :=
  match v.resolve with
  | .null => null
  | .bool b => bool b
  | .int n => int n
  | .float x => float x
  | .text s => text s
  | .dateTime t => timestamp t
  | .array items => ofItems (items.map Value.resolve)
  | .json document => json document
  | .deferred _ => null

/-- The argument as a document. -/
def toJson : Argument → Json
  | null => .null
  | bool b => .bool b
  | int n => .integer n.toInt
  | float x => .ofBinary64 x
  | text s => .text s
  | timestamp t => .text t.text
  | json document => document
  | bools items => .array (items.map .bool)
  | ints items => .array (items.map fun n => .integer n.toInt)
  | floats items => .array (items.map .ofBinary64)
  | texts items => .array (items.map .text)

end Argument

end FilterSql
