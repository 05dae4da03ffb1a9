import FilterSql.Text.Alphanumeric

/-!
# Word characters

Letters and digits of any script, and the underscore. Column names with a language marker and the
keywords of a statement are both delimited by them.
-/

namespace FilterSql.Text

/-- Letters and digits of any script. -/
def isAlphanumeric (c : Char) : Bool :=
  let n := c.toNat
  if n < 0x80 then c.isAlphanum else alphanumericRanges.any (inRanges · n)

/-- A letter, a digit or the underscore. -/
def isWord (c : Char) : Bool :=
  isAlphanumeric c || c == '_'

end FilterSql.Text
