import FilterSql.Binary64.Text
import FilterSql.Json.Basic
import FilterSql.Text.Unshown

/-!
# Documents of the wrong shape

A well-formed document can still be no descriptor. `Mismatch` says why, and `Mismatch.message`
words it.
-/

namespace FilterSql

/-- What a value was found to be where something else was wanted. -/
inductive Found where
  | null
  | bool (b : Bool)
  | integer (n : Int)
  | float (x : Binary64)
  | text (s : String)
  | sequence
  | map
  deriving DecidableEq, Repr

/-- Why a well-formed document does not have the wanted shape. -/
inductive Mismatch where
  | wrongType (found : Found) (wanted : String)
  | wrongValue (found : Found) (wanted : String)
  | unknownVariant (name : String) (known : List String)
  | missingField (name : String)
  | duplicateField (name : String)
  | tooShort (length : Nat) (wanted : String)
  deriving DecidableEq, Repr

namespace Json

/-- What kind of value a document is. -/
def found : Json → Found
  | null => .null
  | bool b => .bool b
  | integer n => .integer n
  | float x => .float x
  | text s => .text s
  | array _ => .sequence
  | object _ => .map

end Json

namespace Mismatch

def hexDigits (n : Nat) : String :=
  String.ofList (Nat.toDigits 16 n)

/-- One character of a quoted text in a message. Characters without a glyph show by code point. -/
def shownChar (c : Char) : String :=
  if c = '"' then "\\\""
  else if c = '\\' then "\\\\"
  else if c = '\t' then "\\t"
  else if c = '\r' then "\\r"
  else if c = '\n' then "\\n"
  else if c.toNat = 0 then "\\0"
  else if Text.isUnshown c then "\\u\x7b" ++ hexDigits c.toNat ++ "\x7d"
  else c.toString

/-- A text between quotes, as a message shows it. -/
def shown (s : String) : String :=
  "\"" ++ String.join (s.toList.map shownChar) ++ "\""

def ticked (s : String) : String :=
  "`" ++ s ++ "`"

end Mismatch

/-- A value as a message names it. -/
def Found.description : Found → String
  | null => "null"
  | bool b => "boolean " ++ Mismatch.ticked (if b then "true" else "false")
  | integer n => "integer " ++ Mismatch.ticked (toString n)
  | float x => "floating point " ++ Mismatch.ticked x.jsonText
  | text s => "string " ++ Mismatch.shown s
  | sequence => "sequence"
  | map => "map"

/-- The wording of a mismatch. -/
def Mismatch.message : Mismatch → String
  | wrongType found wanted => "invalid type: " ++ found.description ++ ", expected " ++ wanted
  | wrongValue found wanted => "invalid value: " ++ found.description ++ ", expected " ++ wanted
  | unknownVariant name known =>
    "unknown variant " ++ ticked name ++ ", expected one of " ++
      String.intercalate ", " (known.map ticked)
  | missingField name => "missing field " ++ ticked name
  | duplicateField name => "duplicate field " ++ ticked name
  | tooShort length wanted => "invalid length " ++ toString length ++ ", expected " ++ wanted

end FilterSql
