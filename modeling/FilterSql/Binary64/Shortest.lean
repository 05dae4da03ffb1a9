import FilterSql.Binary64.Basic

/-!
# The shortest decimal of a binary64 number

A finite nonzero number `m * 2 ^ q` stands for every real nearer to it than to its neighbours. Of
the decimals in that interval `shortest` takes one with the fewest digits, and of those the one
nearest to the number. Two can be equally near: `1125899906842624.25` lies midway between two
decimals of seventeen digits that both stand for it, and a `Tie` says which one is taken. The
interval has its ends included exactly when `m` is even, which is when rounding a tie comes back
to the number.

For one digit, two digits, and so on, only the two neighbours of the number on that decimal grid
can be nearest, so each grid costs two comparisons in exact integer arithmetic.
-/

namespace FilterSql

/-- A nonnegative decimal number `digits * 10 ^ exponent`. -/
structure Decimal where
  digits : Nat
  exponent : Int
  deriving DecidableEq, Repr

/-- Which of two equally near neighbours on a decimal grid is taken. -/
inductive Tie where
  /-- The one with an even last digit. -/
  | toEven
  /-- The one of larger magnitude. -/
  | awayFromZero
  deriving DecidableEq, Repr

/-- Whether the lower of the neighbours `s` and `s + 1` is taken. -/
def Tie.takesLower : Tie → Nat → Bool
  | toEven, s => s % 2 == 0
  | awayFromZero, _ => false

namespace Binary64

/-- A number and the ends of its interval as fractions over one denominator. -/
structure Interval where
  low : Nat
  value : Nat
  high : Nat
  denominator : Nat
  /-- Whether the ends belong to the interval. -/
  closed : Bool

/-- The interval of `m * 2 ^ q`. Below a power of two the gap is half as wide, except at the
smallest exponent, where the grid does not change. -/
def interval (m : Nat) (q : Int) : Interval :=
  let narrow := m = 1 <<< 52 ∧ q > -1074
  let up := 1 <<< (q - 2).toNat
  { low := (4 * m - if narrow then 1 else 2) * up
    value := 4 * m * up
    high := (4 * m + 2) * up
    denominator := 1 <<< (2 - q).toNat
    closed := m % 2 == 0 }

/-- The interval in units of `10 ^ i`. -/
def Interval.inUnits (v : Interval) (i : Int) : Interval :=
  let up := Nat.pow 10 (-i).toNat
  { low := v.low * up
    value := v.value * up
    high := v.high * up
    denominator := v.denominator * Nat.pow 10 i.toNat
    closed := v.closed }

/-- Whether the integer `s` lies in the interval. -/
def Interval.holds (v : Interval) (s : Nat) : Bool :=
  let x := s * v.denominator
  if v.closed then v.low ≤ x && x ≤ v.high else v.low < x && x < v.high

/-- The integer of the interval nearest to its number, if an integer is in it. -/
def Interval.nearest? (v : Interval) (tie : Tie) : Option Nat :=
  let s := v.value / v.denominator
  match v.holds s, v.holds (s + 1) with
  | true, true =>
    let below := v.value - s * v.denominator
    let above := (s + 1) * v.denominator - v.value
    some (if below < above || (below == above && tie.takesLower s) then s else s + 1)
  | true, false => some s
  | false, true => some (s + 1)
  | false, false => none

/-- The exponent of the leading digit: the largest `e` with `10 ^ e` at most the number. The first
guess comes from the binary exponent and is off by one at most. -/
def leadingExponent (m : Nat) (q : Int) : Int :=
  let guess := Int.fdiv (((Nat.log2 m : Int) + q) * 30103) 100000
  let reached (e : Int) : Bool :=
    (Nat.pow 10 e.toNat) <<< (-q).toNat ≤ (m * Nat.pow 10 (-e).toNat) <<< q.toNat
  if reached (guess + 1) then guess + 1
  else if reached guess then guess
  else guess - 1

/-- The decimal without the zeros its digits end in. -/
def dropZeros : Nat → Nat → Int → Decimal
  | 0, d, e => ⟨d, e⟩
  | fuel + 1, d, e => if d ≠ 0 ∧ d % 10 = 0 then dropZeros fuel (d / 10) (e + 1) else ⟨d, e⟩

/-- The first grid, from `n` digits on, that has a point in the interval. -/
def search (tie : Tie) (v : Interval) (leading : Int) : Nat → Nat → Decimal
  | 0, _ => ⟨0, 0⟩
  | fuel + 1, n =>
    let i := leading - n + 1
    match (v.inUnits i).nearest? tie with
    | some d => dropZeros 20 d i
    | none => search tie v leading fuel (n + 1)

/-- The shortest decimal that reads back as the magnitude `m * 2 ^ q`. Seventeen digits always
do. -/
def shortest (tie : Tie) (m : Nat) (q : Int) : Decimal :=
  if m = 0 then ⟨0, 0⟩ else search tie (interval m q) (leadingExponent m q) 17 1

end Binary64

end FilterSql
