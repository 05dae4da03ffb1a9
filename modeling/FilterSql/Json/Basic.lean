import FilterSql.Binary64.Basic

/-!
# JSON documents

A number is an integer or a binary64 number, whichever it was written as. An object is the list of
its members in order; reading keeps each name once.
-/

namespace FilterSql

/-- A JSON document. -/
inductive Json where
  | null
  | bool (b : Bool)
  | integer (n : Int)
  | float (x : Binary64)
  | text (s : String)
  | array (items : List Json)
  | object (members : List (String × Json))
  deriving Repr

namespace Json

instance : Inhabited Json := ⟨.null⟩

/-- A number as a document; there is no JSON for NaN and the infinities, which are null. -/
def ofBinary64 (x : Binary64) : Json :=
  if x.isFinite then .float x else .null

end Json

/-- Named values in order: the members of an object, the cells of a row. -/
abbrev Members (α : Type) := List (String × α)

namespace Members

/-- The members with `name` set: in its old place if it has one, else at the end. -/
def set {α : Type} (name : String) (value : α) : Members α → Members α
  | [] => [(name, value)]
  | (n, v) :: rest => if n = name then (n, value) :: rest else (n, v) :: set name value rest

/-- The members of a sequence of assignments: each name once, in the place of its first
assignment and with the value of its last. -/
def ofAssignments {α : Type} (assignments : List (String × α)) : Members α :=
  assignments.foldl (fun ms a => set a.1 a.2 ms) []

/-- Takes one member out; the last member moves into its place. -/
def swapRemove? {α : Type} (name : String) (ms : Members α) : Option (α × Members α) :=
  match ms.lookup name with
  | none => none
  | some v =>
    let before := ms.takeWhile (·.1 ≠ name)
    let after := (ms.dropWhile (·.1 ≠ name)).tail
    some (v, match after.getLast? with
      | none => before
      | some last => before ++ last :: after.dropLast)

end Members

end FilterSql
