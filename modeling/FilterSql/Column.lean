import FilterSql.Dialect
import FilterSql.Text.Blank
import FilterSql.Text.Word

/-!
# Column names

A column is named by a plain name, which is quoted, or by an expression, which is taken as it is:
a name with a quote, a colon, a point or a blank in it. In either, a word followed by the marker
`§` is a localized column: the marker stands for the language, and the word is quoted together
with its language, so that `title§` is `"title_en"` in English.
-/

namespace FilterSql.Column

open Text

/-- Marks a localized column. -/
def marker : Char := '§'

/-- Whether a name is an expression, which is not quoted. -/
def isExpression (name : String) : Bool :=
  name.toList.any fun c => c == '"' || c == ':' || c == '.' || isBlank c

/-- What a localized column has after its word. -/
def suffix (language : List Char) : List Char :=
  if language.isEmpty then [] else '_' :: language

/-- The column that stands for a marked word. Under `named` a column of some language is given
back the word as its name. -/
def localized (language : List Char) (named : Bool) (word : List Char) : List Char :=
  enclose '"' (word ++ suffix language) ++
    if named && !language.isEmpty then [' ', 'A', 'S', ' '] ++ enclose '"' word else []

/-- Replaces the marked words of a text; `word` is the word that has been read and not yet
written. -/
def replaceMarked (language : List Char) (named : Bool) : (word : List Char) → List Char → List Char
  | word, [] => word
  | word, c :: cs =>
    if isWord c then replaceMarked language named (word ++ [c]) cs
    else if c = marker ∧ word ≠ [] then
      localized language named word ++ replaceMarked language named [] cs
    else word ++ c :: replaceMarked language named [] cs

/-- A text with every marked word replaced by its column. -/
def localize (language : String) (named : Bool) (s : String) : String :=
  String.ofList (replaceMarked language.toList named [] s.toList)

/-- The SQL of a column name. -/
def sqlOf (named : Bool) (language name : String) : String :=
  if name.toList.contains marker then localize language named name
  else if isExpression name then name
  else quoteIdentifier name

/-- A column outside a select list. -/
def resolve (language name : String) : String :=
  sqlOf false language name

/-- A column in a select list, where a localized column keeps its own name. -/
def field (language name : String) : String :=
  sqlOf true language name

/-! ## Sort tokens -/

/-- The direction that a sort token can end in: whether it is descending. -/
def direction? (s : List Char) : Option Bool :=
  match s.map Char.toLower with
  | ['d', 'e', 's', 'c'] => some true
  | ['a', 's', 'c'] => some false
  | _ => none

/-- The text before the last underscore and the text after it. -/
def splitLast? (cs : List Char) : Option (List Char × List Char) :=
  match cs.reverse.dropWhile (· ≠ '_') with
  | [] => none
  | _ :: before => some (before.reverse, (cs.reverse.takeWhile (· ≠ '_')).reverse)

/-- The name of a sort token, and whether it is descending. A token without a direction is
ascending. -/
def splitSort (cs : List Char) : List Char × Bool :=
  match splitLast? cs with
  | none => (cs, false)
  | some (name, ending) =>
    match direction? ending with
    | some descending => (name, descending)
    | none => (cs, false)

/-- The SQL of a sort token. -/
def sortKey (language token : String) : String :=
  let (name, descending) := splitSort token.toList
  resolve language (String.ofList name) ++ if descending then " DESC" else " ASC"

/-! ## Lists -/

/-- The SQL of a select list. -/
def fieldList (language : String) (fields : List String) : String :=
  String.intercalate "," (fields.map (field language))

/-- The SQL of an order. -/
def sortList (language : String) (tokens : List String) : String :=
  String.intercalate "," (tokens.map (sortKey language))

end FilterSql.Column
