/-!
# Integers of 64 bits

Which integers fit 64 bits, with a sign and without.
-/

namespace FilterSql

/-- Whether an integer fits 64 bits with a sign. -/
def isInt64 (n : Int) : Bool :=
  Int64.minValue.toInt ≤ n && n ≤ Int64.maxValue.toInt

/-- Whether a natural number fits 64 bits without a sign. -/
def isUInt64 (n : Nat) : Bool :=
  n < UInt64.size

end FilterSql
