import FilterSql.Condition.Reader
import FilterSql.Descriptor.Basic
import FilterSql.Json.Reader

/-!
# Reading descriptors

A descriptor is a JSON object, or an array of its fields in order. Every field may be missing.
-/

namespace FilterSql

open Reader

/-- A condition, as far as it is well formed; then its shape is looked at. -/
def Condition.reader (depth : Nat) : Reader Condition := do
  match Condition.ofJson (.object (← map depth)) with
  | .ok c => return c
  | .error m => fail (.mismatch m)

/-- Reads a condition from its own text. -/
def Condition.parse (s : String) : Except Fault Condition :=
  whole (Condition.reader nesting) s

/-- Reads a value from its text. -/
def Value.parse (s : String) : Except Fault Value :=
  (Json.parse s).map Value.ofJson

def Payload.reader (depth : Nat) : Reader Payload := do
  return Payload.ofMembers (← map depth)

/-- Reads a payload from its own text. -/
def Payload.parse (s : String) : Except Fault Payload :=
  whole (Payload.reader nesting) s

/-- The fields of an aggregate, by position. -/
def ScalarSpec.fields : List (RecordField ScalarSpec) := [
  ⟨"type", fun depth s => do
    return { s with aggregate := ← variant depth (Aggregate.all.map (·.name)) Aggregate.ofName? }⟩,
  ⟨"key", fun _ s => do return { s with key := ← optional (textValue "a string") }⟩,
  ⟨"key2", fun _ s => do return { s with key2 := ← optional (textValue "a string") }⟩]

def ScalarSpec.reader (depth : Nat) : Reader ScalarSpec :=
  record depth "struct ScalarSpec" ScalarSpec.fields 1 { aggregate := .avg }

namespace Descriptor

/-- A list of strings, or null. -/
def optionalTexts (depth : Nat) : Reader (Option (List String)) :=
  optional (list depth fun _ => textValue "a string")

/-- The fields of a descriptor, by position. -/
def fieldReaders : List (RecordField Descriptor) := [
  ⟨"table", fun _ d => do return { d with table := ← textValue "a string" }⟩,
  ⟨"schema", fun _ d => do return { d with schema := ← optional (textValue "a string") }⟩,
  ⟨"exec", fun depth d => do
    return { d with exec := ← variant depth (Exec.all.map (·.name)) Exec.ofName? }⟩,
  ⟨"fields", fun depth d => do return { d with fields := ← optionalTexts depth }⟩,
  ⟨"sort", fun depth d => do return { d with sort := ← optionalTexts depth }⟩,
  ⟨"filter", fun depth d => do return { d with conditions := ← list depth Condition.reader }⟩,
  ⟨"payload", fun depth d => do return { d with payload := ← optional (Payload.reader depth) }⟩,
  ⟨"scalar", fun depth d => do return { d with scalar := ← optional (ScalarSpec.reader depth) }⟩,
  ⟨"query", fun _ d => do return { d with query := ← optional (textValue "a string") }⟩,
  ⟨"params", fun depth d => do
    return { d with params := ← list depth fun depth => Value.ofJson <$> document depth }⟩,
  ⟨"take", fun _ d => do return { d with take := ← optional Reader.count }⟩,
  ⟨"skip", fun _ d => do return { d with skip := ← optional Reader.count }⟩,
  ⟨"returning", fun depth d => do return { d with returning := ← optionalTexts depth }⟩,
  ⟨"primarykey", fun _ d => do
    return { d with primaryKey := ← optional (textValue "a string") }⟩,
  ⟨"language", fun _ d => do return { d with language := ← optional (textValue "a string") }⟩,
  ⟨"first", fun _ d => do return { d with first := ← truth }⟩,
  ⟨"debug", fun _ d => do return { d with debug := ← truth }⟩]

def reader (depth : Nat) : Reader Descriptor :=
  record depth "struct FilterCmd" fieldReaders 0 {}

/-- Reads a descriptor from its text. -/
def parse (s : String) : Except Fault Descriptor :=
  whole (reader nesting) s

end Descriptor

end FilterSql
