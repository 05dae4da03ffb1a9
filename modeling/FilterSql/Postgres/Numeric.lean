import FilterSql.Json.Basic
import FilterSql.Word64

/-!
# Fixed-point numbers

A NUMERIC cell is a decimal of at most 96 bits with up to 28 places. A whole number that fits 64
bits is read as an integer, every other one as the floating-point number that the steps of
`Numeric.toBinary64` give.
-/

namespace FilterSql

/-- The number `±coefficient / 10 ^ scale`. -/
structure Numeric where
  negative : Bool
  coefficient : Nat
  scale : Nat
  deriving DecidableEq, Repr

namespace Numeric

/-- The whole part, if the number has no other. -/
def whole? (n : Numeric) : Option Int :=
  if n.coefficient % Nat.pow 10 n.scale = 0 then
    let v : Int := (n.coefficient / Nat.pow 10 n.scale : Nat)
    some (if n.negative then -v else v)
  else none

/-- `10 ^ n` by repeated squaring, rounded at each step. -/
def power (n : Nat) : Float :=
  go 64 n 10 1
where
  go : Nat → Nat → Float → Float → Float
    | 0, _, _, r => r
    | fuel + 1, n, a, r =>
      let r := if n % 2 = 1 then r * a else r
      if n / 2 = 0 then r else go fuel (n / 2) (a * a) r

/-- The floating-point number: whole part and fraction are added, and the sum is rounded at the
last place. -/
def toBinary64 (n : Numeric) : Binary64 :=
  let sign (f : Float) : Binary64 := .ofFloat (if n.negative then -f else f)
  if n.scale = 0 then sign (Float.ofNat n.coefficient)
  else
    let precision := Nat.pow 10 n.scale
    let whole := Float.ofNat (n.coefficient / precision)
    let fraction := Float.ofNat (n.coefficient % precision) / Float.ofNat precision
    if fraction == 0 then sign whole
    else
      let place := power n.scale
      sign (((whole + fraction) * place).round / place)

/-- The cell of a number. -/
def toJson (n : Numeric) : Json :=
  match n.whole? with
  | some v => if isInt64 v then .integer v else .ofBinary64 n.toBinary64
  | none => .ofBinary64 n.toBinary64

/-- The number after which a coefficient does not fit. -/
def limit : Nat := Nat.pow 2 96

/-- The most places that a number has. -/
def maxScale : Nat := 28

def digitValue (c : Char) : Nat :=
  c.toNat - 48

/-- Coefficient and scale with the last place rounded up. -/
def roundUp (coefficient scale : Nat) : Nat × Nat :=
  if coefficient + 1 < limit then (coefficient + 1, scale)
  else ((coefficient + 5) / 10, scale - 1)

/-- Coefficient and scale after digits behind the point. From the first digit on that does not fit
the digits are dropped, and a half is rounded up. -/
def addPlaces : (coefficient scale : Nat) → List Char → Nat × Nat
  | coefficient, scale, [] => (coefficient, scale)
  | coefficient, scale, d :: ds =>
    let grown := 10 * coefficient + digitValue d
    if scale < maxScale ∧ grown < limit then addPlaces grown (scale + 1) ds
    else if digitValue d ≥ 5 then roundUp coefficient scale
    else (coefficient, scale)

/-- Reads digits with an optional point and sign. A whole part that does not fit is refused. -/
def parse? (s : String) : Option Numeric :=
  let (negative, cs) := match s.toList with
    | '-' :: cs => (true, cs)
    | '+' :: cs => (false, cs)
    | cs => (false, cs)
  let whole := cs.takeWhile (· ≠ '.')
  let places := (cs.dropWhile (· ≠ '.')).drop 1
  let start := whole.foldl (fun n c => 10 * n + digitValue c) 0
  if (whole ++ places).isEmpty || !(whole ++ places).all Char.isDigit || start ≥ limit then none
  else
    let (coefficient, scale) := addPlaces start 0 places
    some { negative, coefficient, scale }

end Numeric

end FilterSql
