import FilterSql.Json.Basic
import FilterSql.Value.Json

/-!
# Payloads

What an insert or update writes: a list of entries, each a column, a change and a value. In a
descriptor a payload is an object whose keys are columns; a sigil in front of the column names the
change.
-/

namespace FilterSql

/-- How a value changes a column. -/
inductive Change where
  | assign
  | add
  | subtract
  | multiply
  | divide
  /-- At least the value. -/
  | raise
  /-- At most the value. -/
  | lower
  /-- The other truth value. -/
  | toggle
  /-- Trusted SQL text. -/
  | raw
  /-- Trusted SQL text, of which an insert takes no notice. -/
  | rawUpdate
  deriving DecidableEq, Repr

namespace Change

/-- The character in front of a column that names the change. -/
def sigil? : Change → Option Char
  | assign => none
  | add => some '+'
  | subtract => some '-'
  | multiply => some '*'
  | divide => some '/'
  | raise => some '>'
  | lower => some '<'
  | toggle => some '!'
  | raw => some '='
  | rawUpdate => some '#'

/-- The change that a character names. -/
def ofSigil? (c : Char) : Option Change :=
  if c = '+' then some add
  else if c = '-' then some subtract
  else if c = '*' then some multiply
  else if c = '/' then some divide
  else if c = '>' then some raise
  else if c = '<' then some lower
  else if c = '!' then some toggle
  else if c = '=' then some raw
  else if c = '#' then some rawUpdate
  else none

/-- The arithmetic operator of a change. -/
def operator? : Change → Option String
  | add => some "+"
  | subtract => some "-"
  | multiply => some "*"
  | divide => some "/"
  | _ => none

end Change

/-- One entry of a payload. Without a value the entry is skipped. -/
structure Entry where
  column : String
  change : Change
  value : Option Value

namespace Entry

/-- The change and the column of a key. -/
def splitKey : List Char → Change × List Char
  | [] => (.assign, [])
  | c :: cs => match Change.ofSigil? c with
    | some change => (change, cs)
    | none => (.assign, c :: cs)

/-- The key of a change and a column. -/
def joinKey (change : Change) (column : List Char) : List Char :=
  change.sigil?.toList ++ column

/-- The entry of a key with a sigil. -/
def ofKey (key : String) (value : Option Value) : Entry :=
  let (change, column) := splitKey key.toList
  ⟨String.ofList column, change, value⟩

end Entry

/-- The entries of an insert or update, in order. -/
abbrev Payload := List Entry

namespace Payload

/-- Whether no entry has a value. -/
def isEmpty (p : Payload) : Bool :=
  p.all (·.value.isNone)

/-- The payload of an object's members. -/
def ofMembers (members : Members Json) : Payload :=
  members.map fun (key, j) => Entry.ofKey key (some (Value.ofJson j))

end Payload

end FilterSql
