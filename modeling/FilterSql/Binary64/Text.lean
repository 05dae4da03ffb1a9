import FilterSql.Binary64.Shortest

/-!
# Two layouts of a binary64 number

Both layouts write the shortest decimal. SQL literals and plain text use positional digits only,
without a point where there is no fraction. JSON keeps a point in every number and goes over to
scientific notation outside `10 ^ -5 ≤ x < 10 ^ 16`. A number midway between two shortest decimals
goes away from zero in the first layout and to the even digit in JSON.
-/

namespace FilterSql

namespace Decimal

def zeros (n : Nat) : String := String.ofList (List.replicate n '0')

/-- Positional digits, with a point only before a fraction. -/
def positional (d : Decimal) : String :=
  let ds := toString d.digits
  if d.exponent ≥ 0 then ds ++ zeros d.exponent.toNat
  else
    let places := d.exponent.natAbs
    if places < ds.length then
      String.ofList (ds.toList.take (ds.length - places)) ++ "." ++
        String.ofList (ds.toList.drop (ds.length - places))
    else "0." ++ zeros (places - ds.length) ++ ds

/-- The exponent of the leading digit. -/
def leading (d : Decimal) : Int :=
  (toString d.digits).length + d.exponent - 1

/-- One digit, the others after a point, and the exponent with its sign. -/
def scientific (d : Decimal) : String :=
  let ds := (toString d.digits).toList
  let mantissa := String.ofList (ds.take 1) ++
    (if ds.length > 1 then "." ++ String.ofList (ds.drop 1) else "")
  let e := d.leading
  mantissa ++ "e" ++ (if e < 0 then "-" else "+") ++ toString e.natAbs

end Decimal

namespace Binary64

/-- The decimal of a finite number's magnitude. -/
def decimal (x : Binary64) (tie : Tie) : Decimal :=
  let (m, q) := x.magnitude
  shortest tie m q

def signText (x : Binary64) : String :=
  if x.isNegative then "-" else ""

/-- The plain text: never an exponent, and no point before a missing fraction. -/
def text (x : Binary64) : String :=
  if x.isNaN then "NaN"
  else if x.isFinite then x.signText ++ (x.decimal .awayFromZero).positional
  else x.signText ++ "inf"

/-- The text of a finite number in JSON. -/
def jsonText (x : Binary64) : String :=
  let d := x.decimal .toEven
  x.signText ++
    (if d.digits = 0 then "0.0"
     else if -5 ≤ d.leading && d.leading < 16 then
       d.positional ++ (if d.exponent ≥ 0 then ".0" else "")
     else d.scientific)

end Binary64

end FilterSql
