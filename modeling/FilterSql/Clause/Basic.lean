import FilterSql.Condition.Basic
import FilterSql.Fragment
import FilterSql.Text.Upper

/-!
# Filter clauses

A clause is a condition whose columns are SQL and from which everything that emits nothing has been
dropped. What is left is a tree of tests and groups. The tree is written in two steps: as a sequence
of tokens, in which a test is one token and groups stand in parentheses, and then token by token as
a fragment. The first step carries the whole boolean structure, the second none of it.
-/

namespace FilterSql

/-- The pattern of a search term. Percent signs of the term are dropped and its letters are upper
case. -/
def Anchor.pattern (a : Anchor) (term : String) : String :=
  let t := Text.upper (term.toList.filter (· ≠ '%'))
  String.ofList <| match a with
    | .start => t ++ ['%']
    | .finish => '%' :: t
    | .anywhere => '%' :: (t ++ ['%'])

/-- A single test on columns. -/
inductive Test where
  | isNull (column : String)
  | notNull (column : String)
  | compare (column : String) (comparer : Comparer) (value : Value)
  | among (column : String) (values : List Value)
  | notAmong (column : String) (values : List Value)
  | between (column : String) (low high : Value)
  | like (column : String) (pattern : String)
  | blank (column : String)
  | filled (column : String)
  | datePart (part : DatePart) (column : String) (comparer : Comparer) (value : Value)
  /-- The owner's column with the owner, if there is one, and the column of the list. -/
  | permit (owner : Option (String × Value)) (orNull : Bool) (column : String)
      (values : List Value)
  | raw (sql : String)

namespace Test

/-- A column in or not in a list. -/
def membership (column operator : String) (values : List Value) : Fragment :=
  .text (column ++ operator ++ "(") :: (Fragment.bindList values ++ [.text ")"])

/-- The ways to pass an access list. -/
def ways (owner : Option (String × Value)) (orNull : Bool) (column : String)
    (values : List Value) : List Fragment :=
  (match owner with
    | some (c, v) => [.text (c ++ "=") :: Fragment.bind v]
    | none => []) ++
  (if orNull then [[.text (column ++ " IS NULL")]] else []) ++
  [membership column " IN " values]

/-- The SQL of a test. -/
def fragment : Test → Fragment
  | isNull column => [.text (column ++ " IS NULL")]
  | notNull column => [.text (column ++ " IS NOT NULL")]
  | compare column comparer value => .text (column ++ comparer.sql) :: Fragment.bind value
  | among column values => membership column " IN " values
  | notAmong column values => membership column " NOT IN " values
  | between column low high =>
    .text (column ++ " BETWEEN ") :: (Fragment.bind low ++ .text " AND " :: Fragment.bind high)
  | like column pattern =>
    .text ("UPPER(" ++ column ++ ") LIKE ") :: Fragment.bind (.text pattern)
  | blank column =>
    [.text ("(" ++ column ++ " IS NULL OR LENGTH(" ++ column ++ ")=0)")]
  | filled column => [.text ("LENGTH(" ++ column ++ ")>0")]
  | datePart part column comparer value =>
    .text ("EXTRACT(" ++ part.sql ++ " FROM " ++ column ++ ")" ++ comparer.sql) ::
      Fragment.bind value
  | permit owner orNull column values =>
    match ways owner orNull column values with
    | [way] => way
    | several => .text "(" :: (Fragment.join " OR " several ++ [.text ")"])
  | raw sql => [.text ("(" ++ sql ++ ")")]

end Test

/-- A filter as a tree: a row meets a group when it meets one of its members. -/
inductive Clause where
  | test (t : Test)
  | any (members : List Clause)

/-- What a filter is written with. -/
inductive Token where
  | test (t : Test)
  | opening
  | closing
  | and
  | or

namespace Clause

mutual

/-- The tokens of a clause. -/
def tokens : Clause → List Token
  | test t => [.test t]
  | any members => .opening :: (joined .or members ++ [.closing])

/-- The tokens of clauses, with an operator between them. -/
def joined (operator : Token) : List Clause → List Token
  | [] => []
  | c :: cs => c.tokens ++ following operator cs

/-- The tokens of clauses, with an operator before each. -/
def following (operator : Token) : List Clause → List Token
  | [] => []
  | c :: cs => operator :: (c.tokens ++ following operator cs)

end

end Clause

/-- The SQL of a token. -/
def Token.fragment : Token → Fragment
  | test t => t.fragment
  | opening => [.text "("]
  | closing => [.text ")"]
  | and => [.text " AND "]
  | or => [.text " OR "]

/-- The clause that lets through the rows that meet every member; no clause where there is no
member. -/
def whereFragment (members : List Clause) : Fragment :=
  match members with
  | [] => []
  | _ => .text " WHERE " :: (Clause.joined .and members).flatMap Token.fragment

end FilterSql
