/-!
# Binary64 numbers

A floating-point number is held by its bit pattern, so equality is decidable, and its class and
exact value are read off the pattern in integer arithmetic. Rounding arithmetic goes through
`Float` and back.
-/

namespace FilterSql

/-- An IEEE 754 binary64 number, by its bit pattern. -/
structure Binary64 where
  bits : UInt64
  deriving DecidableEq, Repr

namespace Binary64

def ofFloat (f : Float) : Binary64 := ⟨f.toBits⟩

def toFloat (x : Binary64) : Float := Float.ofBits x.bits

/-- Whether the sign bit is set. -/
def isNegative (x : Binary64) : Bool :=
  x.bits.toNat ≥ 1 <<< 63

/-- The eleven exponent bits. -/
def exponentField (x : Binary64) : Nat :=
  (x.bits.toNat >>> 52) % 2048

/-- The fifty-two fraction bits. -/
def fraction (x : Binary64) : Nat :=
  x.bits.toNat % (1 <<< 52)

/-- Neither infinite nor NaN. -/
def isFinite (x : Binary64) : Bool :=
  x.exponentField < 2047

def isNaN (x : Binary64) : Bool :=
  x.exponentField == 2047 && x.fraction != 0

/-- Zero of either sign. -/
def isZero (x : Binary64) : Bool :=
  x.exponentField == 0 && x.fraction == 0

/-- For a finite number, `(m, q)` with magnitude `m * 2 ^ q`. -/
def magnitude (x : Binary64) : Nat × Int :=
  if x.exponentField = 0 then (x.fraction, -1074)
  else (x.fraction + (1 <<< 52), (x.exponentField : Int) - 1075)

/-- The number nearest to an integer, ties to even. -/
def ofInt (n : Int) : Binary64 :=
  ofFloat (if n < 0 then -(Float.ofNat n.natAbs) else Float.ofNat n.natAbs)

/-- Positive zero. -/
def zero : Binary64 := ⟨0⟩

/-- The integer part of a number that is not negative, at most `2 ^ 64 - 1`; `none` below zero and
for NaN. Negative zero is zero. -/
def toCount? (x : Binary64) : Option Nat :=
  if x.isNaN || (x.isNegative && !x.isZero) then none
  else if x.isFinite then
    let (m, q) := x.magnitude
    some (min (UInt64.size - 1) (if q < 0 then m >>> q.natAbs else m <<< q.natAbs))
  else some (UInt64.size - 1)

end Binary64

end FilterSql
