import FilterSql.Cache
import FilterSql.Clause.Basic
import FilterSql.Column
import FilterSql.Error

/-!
# Resolving conditions

The columns of conditions are looked up in the fragment cache, from left to right and from the
outside in, and conditions that emit nothing are dropped: groups without members, and conditions of
a kind that is not known. Where the compiler is strict an unknown kind is an error instead; what
has been looked up before it stays in the cache.
-/

namespace FilterSql

/-- A step of a compilation. A failure leaves behind what the steps before it did. -/
abbrev Compile := ExceptT Error (StateM Session)

namespace Compile

/-- The cached SQL of some tokens, which is `text` where they are not in the cache. -/
def fetch (kind : FragmentKind) (language tokens text : String) : Compile String := do
  let (found, s) := (← get).fetch ⟨kind, language, tokens⟩ text
  set s
  return found

def log (e : LogEntry) : Compile Unit :=
  modify (·.record e)

/-- The SQL of a column. -/
def column (language name : String) : Compile String :=
  fetch .column language name (Column.resolve language name)

/-- The SQL of a select list. -/
def fieldList (language : String) (fields : List String) : Compile String :=
  fetch .fields language (Cache.joinTokens fields) (Column.fieldList language fields)

/-- The SQL of an order. -/
def sortList (language : String) (tokens : List String) : Compile String :=
  fetch .sort language (Cache.joinTokens tokens) (Column.sortList language tokens)

end Compile

namespace Condition

/-- The column that says who owns a row. -/
def ownerColumn : String := "userid"

/-- The comparison of a column with a value; null is told apart by a test of its own. -/
def comparisonTest (column : String) (comparer : Comparer) (value : Value) : Test :=
  if value.resolve.isNull then
    if comparer = .eq then .isNull column else .notNull column
  else .compare column comparer value

mutual

/-- The clause of a condition, if it emits anything. -/
def resolve (language : String) (strict : Bool) : Condition → Compile (Option Clause)
  | compare name comparer value => do
    return some (.test (comparisonTest (← Compile.column language name) comparer value))
  | among name values => do
    return some (.test (.among (← Compile.column language name) values))
  | notAmong name values => do
    return some (.test (.notAmong (← Compile.column language name) values))
  | between name low high => do
    return some (.test (.between (← Compile.column language name) low high))
  | search name term anchor => do
    return some (.test (.like (← Compile.column language name) (anchor.pattern term)))
  | blank name => do
    return some (.test (.blank (← Compile.column language name)))
  | filled name => do
    return some (.test (.filled (← Compile.column language name)))
  | datePart part name comparer value => do
    return some (.test (.datePart part (← Compile.column language name) comparer value))
  | permit name values required owner => do
    let column ← Compile.column language name
    let owner ← match owner.filter (!·.isNull) with
      | some v => do
        let ownerSql ← Compile.column language ownerColumn
        pure (some (ownerSql, v))
      | none => pure none
    return some (.test (.permit owner required column values))
  | raw sql => return some (.test (.raw sql))
  | any conditions => do
    match ← resolveAll language strict conditions with
    | [] => return none
    | members => return some (.any members)
  | unknown kind =>
    if strict then throw (.unknownCondition kind)
    else do
      Compile.log ⟨.debug, "Ignoring unknown condition kind '" ++ kind ++ "'", none⟩
      return none

/-- The clauses of conditions that emit anything. -/
def resolveAll (language : String) (strict : Bool) : List Condition → Compile (List Clause)
  | [] => return []
  | c :: cs => do
    let clause ← resolve language strict c
    let clauses ← resolveAll language strict cs
    return clause.toList ++ clauses

end

/-- The fragment of a filter. -/
def whereClause (language : String) (strict : Bool) (conditions : List Condition) :
    Compile Fragment :=
  whereFragment <$> resolveAll language strict conditions

end Condition

end FilterSql
