/-!
# Quoted texts

A text between two quote characters, in which each quote character of the text is written twice.
SQL string literals use `'`, identifiers `"`.
-/

namespace FilterSql.Text

/-- Each quote character is written twice, every other character once. -/
def double (q : Char) : List Char → List Char
  | [] => []
  | c :: cs => if c = q then q :: q :: double q cs else c :: double q cs

/-- Each pair of quote characters, from the left, is one; a single one stays. -/
def undouble (q : Char) : List Char → List Char
  | [] => []
  | [c] => [c]
  | c :: d :: cs => if c = q ∧ d = q then q :: undouble q cs else c :: undouble q (d :: cs)

/-- The text between quotes. -/
def enclose (q : Char) (cs : List Char) : List Char :=
  q :: (double q cs ++ [q])

/-- The text that stands between quotes, or `none` if it does not start and end with one. -/
def disclose? (q : Char) : List Char → Option (List Char)
  | [] => none
  | c :: cs =>
    if c ≠ q then none
    else if cs.getLast? = some q then some (undouble q cs.dropLast) else none

end FilterSql.Text
