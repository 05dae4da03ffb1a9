import FilterSql.Template
import FilterSql.Text.Word

/-!
# Writing statements

A raw query counts as a write when one of the words INSERT, UPDATE, DELETE and DROP stands in it,
in any case, with a blank of ASCII after it.
-/

namespace FilterSql.WriteScan

open Text

/-- The words of a write, in lower case. -/
def keywords : List (List Char) :=
  ["insert".toList, "update".toList, "delete".toList, "drop".toList]

/-- A space, a tab or a line end. -/
def isGap (c : Char) : Bool :=
  c == ' ' || c == '\t' || c == '\r' || c == '\n'

/-- Whether a text starts with a word of a write and a gap. -/
def startsWrite (cs : List Char) : Bool :=
  keywords.any fun k =>
    match Template.stripWord? k cs with
    | some (c :: _) => isGap c
    | _ => false

/-- Whether a write starts somewhere in a text; `inWord` tells whether the text continues a word,
where none can start. -/
def scan : (inWord : Bool) → List Char → Bool
  | _, [] => false
  | inWord, c :: cs => (!inWord && startsWrite (c :: cs)) || scan (isWord c) cs

/-- Whether a statement writes. -/
def isWrite (sql : String) : Bool :=
  scan false sql.toList

end FilterSql.WriteScan
