import FilterSql.Compiler
import FilterSql.Toml.Reader

/-!
# Configuration

The configuration file is a TOML document with a table for the database and one for the compiler.
Every setting may be missing, and settings that are not known are passed over. A setting of the
wrong shape makes the whole file invalid.
-/

namespace FilterSql

/-- What a configuration file sets. -/
structure Config where
  /-- Where the database is. -/
  url : Option String := none
  settings : Settings := {}
  deriving DecidableEq, Repr

namespace Config

/-- The value of a setting, read by `read`, or what it is without one. -/
def setting {α : Type} (table : Members Toml) (name : String) (default : α)
    (read : Toml → Option α) : Option α :=
  match table.lookup name with
  | none => some default
  | some value => read value

def text? : Toml → Option String
  | .text s => some s
  | _ => none

def truth? : Toml → Option Bool
  | .bool b => some b
  | _ => none

def count? : Toml → Option Nat
  | .integer n => if n < 0 then none else some n.toNat
  | _ => none

/-- A table; a moment stands for one without any setting. -/
def table? : Toml → Option (Members Toml)
  | .table _ entries => some entries
  | .moment _ => some []
  | _ => none

/-- Whether a value is an empty table. -/
def isEmptyTable : Toml → Bool
  | .table _ entries => entries.isEmpty
  | _ => false

def isEmptyArray : Toml → Bool
  | .array items => items.isEmpty
  | _ => false

/-- One of some names: as text, or as the only key of a table, over a value that `isEmpty`
accepts. -/
def choice? {α : Type} (isEmpty : Toml → Bool) (find? : String → Option α) : Toml → Option α
  | .text s => find? s
  | .table _ [(s, content)] => if isEmpty content then find? s else none
  | _ => none

def dialect? : String → Option Dialect
  | "oracle" => some .oracle
  | "postgres" => some .postgres
  | _ => none

def mode? : String → Option BindMode
  | "parameterized" => some .parameterized
  | "inline" => some .inline
  | _ => none

/-- The URL of the database table, which may also be an array that starts with the URL. -/
def url? : Toml → Option (Option String)
  | .array [] => some none
  | .array (value :: _) => some <$> text? value
  | value => do setting (← table? value) "url" none fun v => some <$> text? v

/-- The settings of the compiler table. -/
def settings? (value : Toml) : Option Settings := do
  let table ← table? value
  return {
    dialect := ← setting table "dialect" .oracle
      (choice? (fun v => isEmptyTable v || isEmptyArray v) dialect?)
    mode := ← setting table "bind_mode" .parameterized (choice? isEmptyTable mode?)
    strict := ← setting table "strict" false truth?
    clearEvery := ← setting table "cache_clear_every" 10 count? }

/-- The configuration of a document. -/
def ofToml? (document : Members Toml) : Option Config := do
  return {
    url := ← setting document "database" none url?
    settings := ← setting document "compiler" {} settings? }

/-- Reads a configuration from its text. -/
def parse (s : String) : Except Error Config :=
  match Toml.parse? s with
  | none => .error (.config "the file is not a TOML document")
  | some document =>
    match ofToml? document with
    | none => .error (.config "a setting does not have the shape it needs")
    | some config => .ok config

end Config

end FilterSql
