import FilterSql.Condition.Basic
import FilterSql.Json.Mismatch
import FilterSql.Value.Json
import FilterSql.Value.Text

/-!
# Reading conditions

A condition is written as an object whose `type` names its kind. The type is taken out of the
object first, by moving the last member into its place, and the other members are then checked in
the order that leaves: the first one of the wrong shape decides, and only then the first one that
is missing. Members that a kind does not know are not looked at.
-/

namespace FilterSql

namespace Json

def asText : Json → Except Mismatch String
  | text s => .ok s
  | j => .error (.wrongType j.found "a string")

def asBool : Json → Except Mismatch Bool
  | bool b => .ok b
  | j => .error (.wrongType j.found "a boolean")

/-- One of the named values: its name, or an object with the name and null. -/
def asVariant {α : Type} (known : List String) (find? : String → Option α) :
    Json → Except Mismatch α
  | text s => named s
  | object [(s, content)] => do
    let a ← named s
    match content with
    | null => return a
    | j => .error (.wrongType j.found "unit")
  | object _ => .error (.wrongValue .map "map with a single key")
  | j => .error (.wrongType j.found "string or map")
where
  named (s : String) : Except Mismatch α :=
    match find? s with
    | some a => .ok a
    | none => .error (.unknownVariant s known)

end Json

def Comparer.ofName? : String → Option Comparer
  | "=" => some .eq
  | "<>" => some .ne
  | "!=" => some .ne
  | ">" => some .gt
  | ">=" => some .ge
  | "<" => some .lt
  | "<=" => some .le
  | _ => none

def Comparer.ofJson : Json → Except Mismatch Comparer :=
  Json.asVariant ["=", "!=", "<>", ">", ">=", "<", "<="] ofName?

def Anchor.ofName? : String → Option Anchor
  | "begin" => some .start
  | "beg" => some .start
  | "end" => some .finish
  | "contains" => some .anywhere
  | "*" => some .anywhere
  | _ => none

def Anchor.ofJson : Json → Except Mismatch Anchor :=
  Json.asVariant ["beg", "begin", "end", "*", "contains"] ofName?

namespace Condition

/-- The members of a condition, each with its reading as a list of conditions. -/
abbrev Arguments := Members (Json × Except Mismatch (List Condition))

/-- A member that a kind of condition knows: its name, another name for it, and what its value has
to be. -/
structure Parameter where
  name : String
  also : Option String := none
  check : Json × Except Mismatch (List Condition) → Except Mismatch Unit

def Parameter.isNamed (p : Parameter) (s : String) : Bool :=
  p.name = s || p.also = some s

def textParameter (name : String) : Parameter where
  name := name
  check a := discard a.1.asText

/-- Checks the members in order. A parameter may stand once, under one of its names. -/
def checkArguments (parameters : List Parameter) :
    List String → Arguments → Except Mismatch Unit
  | _, [] => .ok ()
  | seen, (n, a) :: rest => do
    match parameters.find? (·.isNamed n) with
    | none => checkArguments parameters seen rest
    | some p =>
      if p.name ∈ seen then .error (.duplicateField p.name)
      p.check a
      checkArguments parameters (p.name :: seen) rest

namespace Arguments

/-- A member that must be there. -/
def required (args : Arguments) (name : String) :
    Except Mismatch (Json × Except Mismatch (List Condition)) :=
  match args.lookup name with
  | some a => .ok a
  | none => .error (.missingField name)

/-- The name of the column. -/
def column (args : Arguments) : Except Mismatch String := do
  (← args.required "name").1.asText

/-- The value of a member that must be there. -/
def value (args : Arguments) (name : String) : Except Mismatch Value := do
  return Value.ofJson (← args.required name).1

/-- The items of an array, or a single value. -/
def values (args : Arguments) : Except Mismatch (List Value) := do
  match Value.ofJson (← args.required "value").1 with
  | .array items => return items
  | v => return [v]

/-- The value of a member that is null where it is not written. -/
def valueOrNull (args : Arguments) (name : String) : Value :=
  match args.lookup name with
  | some a => Value.ofJson a.1
  | none => .null

def comparer (args : Arguments) : Except Mismatch Comparer :=
  match args.lookup "comparer" with
  | some a => Comparer.ofJson a.1
  | none => .ok .eq

def anchor (args : Arguments) : Except Mismatch Anchor :=
  match (args.lookup "anchor").orElse fun _ => args.lookup "compare" with
  | some a => Anchor.ofJson a.1
  | none => .ok .anywhere

end Arguments

def comparerParameter : Parameter where
  name := "comparer"
  check a := discard (Comparer.ofJson a.1)

/-- The name, comparer and value of a comparison. -/
def comparison (args : Arguments) : Except Mismatch (String × Comparer × Value) := do
  checkArguments [textParameter "name", comparerParameter] [] args
  return (← args.column, ← args.comparer, args.valueOrNull "value")

/-- The condition of a kind and its other members. -/
def ofArguments (kind : String) (args : Arguments) : Except Mismatch Condition :=
  match kind with
  | "where" => do
    let (name, comparer, value) ← comparison args
    return compare name comparer value
  | "in" => do
    checkArguments [textParameter "name"] [] args
    return among (← args.column) (← args.values)
  | "notin" => do
    checkArguments [textParameter "name"] [] args
    return notAmong (← args.column) (← args.values)
  | "between" => do
    checkArguments [textParameter "name"] [] args
    return between (← args.column) (← args.value "a") (← args.value "b")
  | "search" => do
    let anchor : Parameter :=
      { name := "anchor", also := some "compare", check := fun a => discard (Anchor.ofJson a.1) }
    checkArguments [textParameter "name", anchor] [] args
    return search (← args.column) (← args.value "value").rawText (← args.anchor)
  | "empty" => do
    checkArguments [textParameter "name"] [] args
    return blank (← args.column)
  | "contains" => do
    checkArguments [textParameter "name"] [] args
    return filled (← args.column)
  | "permit" => do
    let required : Parameter := { name := "required", check := fun a => discard a.1.asBool }
    checkArguments [textParameter "name", required] [] args
    let name ← args.column
    let values ← args.values
    let required ← match args.lookup "required" with
      | some a => a.1.asBool
      | none => .ok false
    let owner := match args.valueOrNull "userid" with
      | .null => none
      | v => some v
    return permit name values required owner
  | "query" => do
    checkArguments [textParameter "value"] [] args
    return raw (← (← args.required "value").1.asText)
  | "or" => do
    checkArguments [{ name := "value", check := fun a => discard a.2 }] [] args
    return any (← (← args.required "value").2)
  | _ =>
    match DatePart.ofName? kind with
    | some part => do
      let (name, comparer, value) ← comparison args
      return datePart part name comparer value
    | none => .ok (unknown kind)

mutual

/-- The condition of a document. -/
def ofJson : Json → Except Mismatch Condition
  | .object members =>
    match Members.swapRemove? "type" (withGroups members) with
    | some ((.text kind, _), args) => ofArguments kind args
    | _ => .error (.missingField "type")
  | j => .error (.wrongType j.found "a map")

/-- The conditions of a group. -/
def groupOfJson : Json → Except Mismatch (List Condition)
  | .array items => allOfJson items
  | j => .error (.wrongType j.found "a sequence")

def allOfJson : List Json → Except Mismatch (List Condition)
  | [] => .ok []
  | j :: js => do
    let c ← ofJson j
    return c :: (← allOfJson js)

/-- Reads every member as a group beside its plain reading; only an `or` looks at it. -/
def withGroups : List (String × Json) → Arguments
  | [] => []
  | (n, j) :: ms => (n, (j, groupOfJson j)) :: withGroups ms

end

end Condition

end FilterSql
