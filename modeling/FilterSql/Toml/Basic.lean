import FilterSql.Binary64.Basic
import FilterSql.Json.Basic

/-!
# TOML documents

A document is a table. It is built section by section: the entries before the first header, and
then each header with the entries below it. A table remembers what brought it into being, because
that decides how it may grow: a header may open a table that so far exists only on the way to
another one, a dotted key may only go through tables that no header has opened, and a table written
inline is closed.
-/

namespace FilterSql

/-- What brought a table into being. -/
inductive TableOrigin where
  /-- The braces it is written in. -/
  | inline
  /-- A header of its own. -/
  | header
  /-- A header further down. -/
  | path
  /-- A dotted key. -/
  | dotted
  deriving DecidableEq, Repr

/-- A TOML value. -/
inductive Toml where
  | bool (b : Bool)
  | integer (n : Int)
  | float (x : Binary64)
  | text (s : String)
  /-- A date, a time or both, as it is written. -/
  | moment (s : String)
  | array (items : List Toml)
  | table (origin : TableOrigin) (entries : List (String × Toml))
  /-- The tables of a header in double brackets; each header of that name adds one. -/
  | tables (elements : List (List (String × Toml)))
  deriving Repr

/-- A header of a section and the entries below it, each with its dotted key. -/
structure TomlSection where
  /-- Whether the header stands in double brackets. -/
  repeated : Bool
  /-- The dotted key of the header; none for the entries before the first one. -/
  header : List String
  entries : List (List String × Toml)
  deriving Repr

namespace Toml

/-- Changes the last element of a list that has one. -/
def modifyLast? {α : Type} (f : α → Option α) : List α → Option (List α)
  | [] => none
  | [a] => do return [← f a]
  | a :: as => do return a :: (← modifyLast? f as)

/-- Adds a value under a dotted key. Every key may be given once, and the table that gets the
value must be one that dotted keys made. -/
def assign : List String → Toml → Members Toml → Option (Members Toml)
  | [], _, _ => none
  | [key], value, entries =>
    match entries.lookup key with
    | none => some (Members.set key value entries)
    | some _ => none
  | key :: next :: keys, value, entries => do
    let inside : Members Toml → Option (Members Toml) := assign (next :: keys) value
    let grown ← match entries.lookup key with
      | none => table .dotted <$> inside []
      | some (table .dotted sub) => table .dotted <$> inside sub
      | some (table .path sub) => if keys.isEmpty then none else table .path <$> inside sub
      | some (tables elements) =>
        if keys.isEmpty then none else tables <$> modifyLast? inside elements
      | some _ => none
    return Members.set key grown entries

/-- Adds entries one after the other. -/
def assignAll (assignments : List (List String × Toml)) (entries : Members Toml) :
    Option (Members Toml) :=
  assignments.foldlM (fun es a => assign a.1 a.2 es) entries

/-- Changes the table that a header's keys, up to the last one, lead to. A table in the list of a
header in double brackets is the last one so far. -/
def descend (change : Members Toml → Option (Members Toml)) :
    List String → Members Toml → Option (Members Toml)
  | [], entries => change entries
  | key :: keys, entries => do
    let inside : Members Toml → Option (Members Toml) := descend change keys
    let grown ← match entries.lookup key with
      | none => table .path <$> inside []
      | some (table .inline _) => none
      | some (table origin sub) => table origin <$> inside sub
      | some (tables elements) => tables <$> modifyLast? inside elements
      | some _ => none
    return Members.set key grown entries

/-- Opens the table of a header and adds the entries below it. -/
def openTable (key : String) (below : List (List String × Toml)) (entries : Members Toml) :
    Option (Members Toml) := do
  let opened ← match entries.lookup key with
    | none => assignAll below []
    | some (table .path sub) => assignAll below sub
    | some _ => none
  return Members.set key (table .header opened) entries

/-- Adds a table to the list of a header in double brackets. -/
def addTable (key : String) (below : List (List String × Toml)) (entries : Members Toml) :
    Option (Members Toml) := do
  let earlier ← match entries.lookup key with
    | none => some []
    | some (tables elements) => some elements
    | some _ => none
  return Members.set key (tables (earlier ++ [← assignAll below []])) entries

/-- Adds a section to a document. -/
def addSection (document : Members Toml) (s : TomlSection) : Option (Members Toml) :=
  match s.header.getLast? with
  | none => assignAll s.entries document
  | some key =>
    descend (if s.repeated then addTable key s.entries else openTable key s.entries)
      s.header.dropLast document

/-- The document of its sections, if they fit together. -/
def ofSections? (sections : List TomlSection) : Option (Members Toml) :=
  sections.foldlM addSection []

end Toml

end FilterSql
