import FilterSql.Value.Literal

/-!
# Statement fragments

A fragment is SQL text with the places of its values still open. It is the same in every dialect
and for every way of binding; `Fragment.sql` then fills the places, with numbered placeholders or
with literals. A placeholder's number is the position of its value among the parameters.
-/

namespace FilterSql

/-- How values reach the database. -/
inductive BindMode where
  /-- As parameters, by placeholder. -/
  | parameterized
  /-- As literals in the text. -/
  | inline
  deriving DecidableEq, Repr

/-- A piece of a statement. -/
inductive Piece where
  | text (s : String)
  /-- The place of a value. -/
  | value (v : Value)
  /-- A truth value that is part of the statement. -/
  | truth (b : Bool)

/-- A part of a statement. -/
abbrev Fragment := List Piece

namespace Fragment

/-- The place of a value, which is resolved. -/
def bind (v : Value) : Fragment :=
  [.value v.resolve]

/-- The places of a list of values. An empty list is NULL, which nothing is a member of. -/
def bindList : List Value → Fragment
  | [] => [.text "NULL"]
  | v :: vs => .value v.resolve :: vs.flatMap fun v => [.text ",", .value v.resolve]

/-- The values of a fragment, in order. -/
def values (f : Fragment) : List Value :=
  f.filterMap fun
    | .value v => some v
    | _ => none

/-- The fragments with `separator` between them. -/
def join (separator : String) : List Fragment → Fragment
  | [] => []
  | [f] => f
  | f :: fs => f ++ .text separator :: join separator fs

/-- The SQL of a fragment after `n` parameters. -/
def sql (d : Dialect) (mode : BindMode) : Nat → Fragment → String
  | _, [] => ""
  | n, .text s :: f => s ++ sql d mode n f
  | n, .truth b :: f => d.truth b ++ sql d mode n f
  | n, .value v :: f =>
    match mode with
    | .parameterized => d.placeholder (n + 1) ++ sql d mode (n + 1) f
    | .inline => v.literal d ++ sql d mode n f

/-- The parameters that a fragment adds. -/
def params (mode : BindMode) (f : Fragment) : List Value :=
  match mode with
  | .parameterized => f.values
  | .inline => []

/-- The SQL of fragments one after the other, each after the parameters of those before it. -/
def sqlEach (d : Dialect) (mode : BindMode) : Nat → List Fragment → List String
  | _, [] => []
  | n, f :: fs => f.sql d mode n :: sqlEach d mode (n + (f.params mode).length) fs

end Fragment

end FilterSql
