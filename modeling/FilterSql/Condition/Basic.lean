import FilterSql.Value.Basic

/-!
# Conditions

The filter of a descriptor is a list of conditions, all of which a row has to meet. An `any` group
is met when one of its members is.
-/

namespace FilterSql

/-- A comparison operator. -/
inductive Comparer where
  | eq
  | ne
  | gt
  | ge
  | lt
  | le
  deriving DecidableEq, Repr

def Comparer.sql : Comparer → String
  | eq => "="
  | ne => "<>"
  | gt => ">"
  | ge => ">="
  | lt => "<"
  | le => "<="

/-- Where in a text a search term has to stand. -/
inductive Anchor where
  | start
  | finish
  | anywhere
  deriving DecidableEq, Repr

/-- A part of a moment. -/
inductive DatePart where
  | month
  | year
  | day
  | hour
  | minute
  deriving DecidableEq, Repr

namespace DatePart

def all : List DatePart := [month, year, day, hour, minute]

def sql : DatePart → String
  | month => "MONTH"
  | year => "YEAR"
  | day => "DAY"
  | hour => "HOUR"
  | minute => "MINUTE"

def name : DatePart → String
  | month => "month"
  | year => "year"
  | day => "day"
  | hour => "hour"
  | minute => "minute"

def ofName? (s : String) : Option DatePart :=
  all.find? (·.name = s)

end DatePart

/-- A condition on a row, by the names of its columns. -/
inductive Condition where
  | compare (name : String) (comparer : Comparer) (value : Value)
  | among (name : String) (values : List Value)
  | notAmong (name : String) (values : List Value)
  | between (name : String) (low high : Value)
  /-- A text that has the term at the anchor, whatever the case. -/
  | search (name : String) (term : String) (anchor : Anchor)
  /-- Null or the empty text. -/
  | blank (name : String)
  /-- A text of at least one character. -/
  | filled (name : String)
  | datePart (part : DatePart) (name : String) (comparer : Comparer) (value : Value)
  /-- Membership in an access list. An owner passes always, and where `required` is set so does a
  row without a list. -/
  | permit (name : String) (values : List Value) (required : Bool) (owner : Option Value)
  /-- Trusted SQL text. -/
  | raw (sql : String)
  | any (conditions : List Condition)
  /-- A kind that is not known. -/
  | unknown (kind : String)

end FilterSql
