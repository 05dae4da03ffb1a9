import FilterSql.Binary64.Text
import FilterSql.Json.Basic

/-!
# The text of a JSON document

`Json.compact` writes a document without any blank, `Json.pretty` on lines indented by two spaces
a level. Strings escape the quote, the backslash and the characters below the space, and nothing
else.
-/

namespace FilterSql.Json

def hexDigit (n : Nat) : Char :=
  if n < 10 then Char.ofNat (48 + n) else Char.ofNat (87 + n)

/-- One character of a string, escaped where JSON asks for it. -/
def escapeChar (c : Char) : List Char :=
  if c = '"' then ['\\', '"']
  else if c = '\\' then ['\\', '\\']
  else if c.toNat = 8 then ['\\', 'b']
  else if c.toNat = 9 then ['\\', 't']
  else if c.toNat = 10 then ['\\', 'n']
  else if c.toNat = 12 then ['\\', 'f']
  else if c.toNat = 13 then ['\\', 'r']
  else if c.toNat < 0x20 then
    ['\\', 'u', '0', '0', hexDigit (c.toNat / 16), hexDigit (c.toNat % 16)]
  else [c]

/-- A string between quotes. -/
def quoted (s : String) : String :=
  String.ofList ('"' :: (s.toList.flatMap escapeChar ++ ['"']))

mutual

/-- The document without blanks. -/
def compact : Json → String
  | null => "null"
  | bool b => if b then "true" else "false"
  | integer n => toString n
  | float x => x.jsonText
  | text s => quoted s
  | array items => "[" ++ String.intercalate "," (compactItems items) ++ "]"
  | object members => "\x7b" ++ String.intercalate "," (compactMembers members) ++ "\x7d"

def compactItems : List Json → List String
  | [] => []
  | j :: js => compact j :: compactItems js

def compactMembers : List (String × Json) → List String
  | [] => []
  | (n, j) :: ms => (quoted n ++ ":" ++ compact j) :: compactMembers ms

end

def indentation (level : Nat) : String :=
  String.ofList (List.replicate (2 * level) ' ')

/-- The parts of an array or object on lines of their own, between its brackets. -/
def onLines (level : Nat) (opening closing : String) (parts : List String) : String :=
  if parts.isEmpty then opening ++ closing
  else
    let line (s : String) := "\n" ++ indentation (level + 1) ++ s
    opening ++ String.intercalate "," (parts.map line) ++ "\n" ++ indentation level ++ closing

mutual

/-- The document on lines, inside brackets `level` deep. -/
def prettyAt (level : Nat) : Json → String
  | null => "null"
  | bool b => if b then "true" else "false"
  | integer n => toString n
  | float x => x.jsonText
  | text s => quoted s
  | array items => onLines level "[" "]" (prettyItems (level + 1) items)
  | object members => onLines level "\x7b" "\x7d" (prettyMembers (level + 1) members)

def prettyItems (level : Nat) : List Json → List String
  | [] => []
  | j :: js => prettyAt level j :: prettyItems level js

def prettyMembers (level : Nat) : List (String × Json) → List String
  | [] => []
  | (n, j) :: ms => (quoted n ++ ": " ++ prettyAt level j) :: prettyMembers level ms

end

/-- The document on lines indented by two spaces a level. -/
def pretty (j : Json) : String :=
  prettyAt 0 j

end FilterSql.Json
