/-!
# Civil date and time

A moment of the proleptic Gregorian calendar without a time zone. A leap second is kept as second
59 with a nanosecond part of one second or more, and shows as second 60.
-/

namespace FilterSql

/-- A civil date. -/
structure Date where
  year : Int
  month : Nat
  day : Nat
  deriving DecidableEq, Repr

/-- A civil date and time. -/
structure DateTime where
  date : Date
  hour : Nat
  minute : Nat
  second : Nat
  nanosecond : Nat
  deriving DecidableEq, Repr

namespace Date

def isLeapYear (y : Int) : Bool :=
  y % 4 == 0 && (y % 100 != 0 || y % 400 == 0)

/-- The days of a month of the year `y`; none for a number that is no month. -/
def daysIn (y : Int) : Nat → Nat
  | 1 => 31
  | 2 => if isLeapYear y then 29 else 28
  | 3 => 31
  | 4 => 30
  | 5 => 31
  | 6 => 30
  | 7 => 31
  | 8 => 31
  | 9 => 30
  | 10 => 31
  | 11 => 30
  | 12 => 31
  | _ => 0

/-- The date of three numbers, if they name a day and the year is in the supported range. -/
def ofParts? (year month day : Int) : Option Date :=
  if -262143 ≤ year ∧ year ≤ 262142 ∧ 0 ≤ month ∧ 1 ≤ day ∧ day ≤ daysIn year month.toNat then
    some ⟨year, month.toNat, day.toNat⟩
  else none

end Date

/-- The digits of `n`, filled with zeros to a width. -/
def zeroPadded (width n : Nat) : String :=
  let ds := toString n
  String.ofList (List.replicate (width - ds.length) '0') ++ ds

/-- `YYYY-MM-DD`. A year beyond four digits, or before year 0, has a sign. -/
def Date.text (d : Date) : String :=
  let year :=
    if 0 ≤ d.year ∧ d.year ≤ 9999 then zeroPadded 4 d.year.toNat
    else (if d.year < 0 then "-" else "+") ++ zeroPadded 4 d.year.natAbs
  year ++ "-" ++ zeroPadded 2 d.month ++ "-" ++ zeroPadded 2 d.day

namespace DateTime

/-- The moment of seven numbers, if they name one. Only second 59 has a leap second. -/
def ofParts? (year month day hour minute second nanosecond : Int) : Option DateTime := do
  let date ← Date.ofParts? year month day
  if 0 ≤ hour ∧ hour < 24 ∧ 0 ≤ minute ∧ minute < 60 ∧ 0 ≤ second ∧ second < 60 ∧
      0 ≤ nanosecond ∧ (nanosecond < 1000000000 ∨ second = 59 ∧ nanosecond < 2000000000) then
    some ⟨date, hour.toNat, minute.toNat, second.toNat, nanosecond.toNat⟩
  else none

/-- `YYYY-MM-DD HH:MM:SS`, on the 24-hour clock. -/
def text (t : DateTime) : String :=
  t.date.text ++ " " ++ zeroPadded 2 t.hour ++ ":" ++ zeroPadded 2 t.minute ++ ":" ++
    zeroPadded 2 (t.second + t.nanosecond / 1000000000)

end DateTime

end FilterSql
