import FilterSql.Exec

/-!
# Errors

What can go wrong between a descriptor and its result, each with its wording. The causes that a
compilation can raise come first; `Error.isCompile` tells them from the rest.
-/

namespace FilterSql

/-- Why an operation failed. -/
inductive Error where
  /-- The keys of an aggregate do not go with its function. -/
  | unsupportedScalar (reason : String)
  /-- An aggregate operation without its function. -/
  | missingScalar (table : String)
  /-- An insert or update with nothing to write. -/
  | emptyPayload (exec : Exec) (table : String)
  /-- A raw query without its template. -/
  | missingQuery (table : String)
  /-- A condition of a kind that is not known, where that is not allowed. -/
  | unknownCondition (kind : String)
  | invalidDescriptor (reason : String)
  /-- Positional parameters where values are written into the text. -/
  | inlineParams (number : Nat)
  | database (reason : String)
  | connection (reason : String)
  | execution (reason : String)
  | config (reason : String)
  | io (reason : String)
  | json (reason : String)
  deriving DecidableEq, Repr

namespace Error

/-- The wording of an error. -/
def message : Error → String
  | unsupportedScalar reason => "Unsupported scalar: " ++ reason
  | missingScalar table => "Missing scalar spec for table '" ++ table ++ "'"
  | emptyPayload exec table =>
    "Empty payload for " ++ exec.name ++ " on table '" ++ table ++ "'"
  | missingQuery table => "Missing query template for table '" ++ table ++ "'"
  | unknownCondition kind => "Unknown condition kind: '" ++ kind ++ "'"
  | invalidDescriptor reason => "Invalid descriptor: " ++ reason
  | inlineParams number =>
    "Inline binding cannot carry " ++ toString number ++
      " positional parameter(s); escape them into the template"
  | database reason => "Database error: " ++ reason
  | connection reason => "Connection error: " ++ reason
  | execution reason => "Execution error: " ++ reason
  | config reason => "Configuration error: " ++ reason
  | io reason => "IO error: " ++ reason
  | json reason => "JSON error: " ++ reason

/-- Whether the error arises while a statement is compiled, before anything is executed. -/
def isCompile : Error → Bool
  | unsupportedScalar _ | missingScalar _ | emptyPayload _ _ | missingQuery _
  | unknownCondition _ | invalidDescriptor _ | inlineParams _ => true
  | _ => false

end Error

end FilterSql
