import FilterSql.DateTime
import FilterSql.Toml.Basic
import FilterSql.Word64

/-!
# TOML scalars without quotes

Truth values, numbers and moments are written as one word of letters, digits, signs, colons and
points. Digits may be grouped by single underscores. Integers have 64 bits with sign; a
floating-point number must not be too large, where only the positive side is checked.
-/

namespace FilterSql.Toml

/-- Whether a character can stand in a scalar without quotes. -/
def isScalarChar (c : Char) : Bool :=
  c.isAlphanum || c == '_' || c == '+' || c == '-' || c == '.' || c == ':'

/-- The pieces of a word between underscores. -/
def splitGroups : List Char → List (List Char)
  | [] => [[]]
  | c :: cs =>
    if c = '_' then [] :: splitGroups cs
    else match splitGroups cs with
      | [] => [[c]]
      | g :: gs => (c :: g) :: gs

/-- The digits of a word in groups, if it has nothing else. -/
def groupedDigits? (isDigit : Char → Bool) (cs : List Char) : Option (List Char) :=
  let groups := splitGroups cs
  if groups.all fun g => !g.isEmpty && g.all isDigit then some groups.flatten else none

/-- The value of a digit of any base up to 16. -/
def digitValue (c : Char) : Nat :=
  if c.isDigit then c.toNat - 48 else c.toLower.toNat - 87

def isDigitOf (base : Nat) (c : Char) : Bool :=
  (c.isDigit || ('a' ≤ c.toLower && c.toLower ≤ 'f')) && digitValue c < base

def number (base : Nat) (ds : List Char) : Nat :=
  ds.foldl (fun n c => base * n + digitValue c) 0

/-- A sign that may stand in front: whether it is a minus, and what follows it. -/
def splitSign : List Char → Bool × List Char
  | '-' :: cs => (true, cs)
  | '+' :: cs => (false, cs)
  | cs => (false, cs)

/-- Decimal digits that do not start with a zero, except zero itself. -/
def decimalDigits? (cs : List Char) : Option (List Char) := do
  let ds ← groupedDigits? (isDigitOf 10) cs
  if ds.length > 1 ∧ ds.head? = some '0' then none else some ds

/-- An integer. Only a decimal one can have a sign. -/
def integer? (cs : List Char) : Option Int := do
  let inBase (base : Nat) (cs : List Char) : Option Int := do
    return number base (← groupedDigits? (isDigitOf base) cs)
  let n ← match cs with
    | '0' :: 'x' :: cs => inBase 16 cs
    | '0' :: 'o' :: cs => inBase 8 cs
    | '0' :: 'b' :: cs => inBase 2 cs
    | cs => do
      let (negative, cs) := splitSign cs
      let n : Int := number 10 (← decimalDigits? cs)
      pure (if negative then -n else n)
  if isInt64 n then some n else none

/-- The number nearest to `m * 10 ^ e`. -/
def scientific (m : Nat) (e : Int) : Binary64 :=
  let leading := (toString m).length + e
  .ofFloat <|
    if m = 0 ∨ leading < -400 then 0
    else if leading > 400 then 1 / 0
    else Float.ofScientific m (e < 0) e.natAbs

/-- A floating-point number: it has a fraction or an exponent, or is a name. -/
def float? (cs : List Char) : Option Binary64 := do
  let (negative, cs) := splitSign cs
  let signed (x : Binary64) : Binary64 := if negative then .ofFloat (-x.toFloat) else x
  if cs = ['i', 'n', 'f'] then return signed (.ofFloat (1 / 0))
  if cs = ['n', 'a', 'n'] then return signed (.ofFloat (0 / 0))
  let isMark (c : Char) : Bool := c == 'e' || c == 'E'
  let mantissa := cs.takeWhile (!isMark ·)
  let ending := cs.dropWhile (!isMark ·)
  let whole ← decimalDigits? (mantissa.takeWhile (· ≠ '.'))
  let fraction ← match mantissa.dropWhile (· ≠ '.') with
    | [] => some []
    | _ :: ds => groupedDigits? (isDigitOf 10) ds
  let exponent : Int ← match ending with
    | [] => some 0
    | _ :: ds => do
      let (down, ds) := splitSign ds
      let e := number 10 (← groupedDigits? (isDigitOf 10) ds)
      pure (if down then -e else e)
  if fraction.isEmpty ∧ ending.isEmpty then none
  let x := scientific (number 10 (whole ++ fraction)) (exponent - fraction.length)
  if !x.isFinite && !negative then none
  return signed x

/-- The number of two digits. -/
def pair? (a b : Char) : Option Nat :=
  if a.isDigit ∧ b.isDigit then some (number 10 [a, b]) else none

/-- Whether a word is an offset from universal time, or nothing. -/
def isOffset : List Char → Bool
  | [] | ['Z'] | ['z'] => true
  | [sign, a, b, ':', c, d] =>
    (sign == '+' || sign == '-') && (pair? a b).any (· < 24) && (pair? c d).any (· < 60)
  | _ => false

/-- The word after a time of day, if it starts with one. -/
def afterTime? : List Char → Option (List Char)
  | a :: b :: ':' :: c :: d :: ':' :: e :: f :: cs =>
    if (pair? a b).any (· < 24) ∧ (pair? c d).any (· < 60) ∧ (pair? e f).any (· ≤ 60) then
      match cs with
      | '.' :: ds => if ds.head?.any Char.isDigit then some (ds.dropWhile Char.isDigit) else none
      | cs => some cs
    else none
  | _ => none

/-- The word after a date, if it starts with one. -/
def afterDate? : List Char → Option (List Char)
  | a :: b :: c :: d :: '-' :: e :: f :: '-' :: g :: h :: cs => do
    let year := 100 * (← pair? a b) + (← pair? c d)
    let month ← pair? e f
    let day ← pair? g h
    let _ ← Date.ofParts? year month day
    return cs
  | _ => none

/-- Whether a word is a date. -/
def isDate (cs : List Char) : Bool :=
  afterDate? cs = some []

/-- Whether a word is a time of day, with an offset or without. -/
def isTime (cs : List Char) : Bool :=
  (afterTime? cs).any isOffset

/-- Whether a word is a date, a time, or both with a letter between them. -/
def isMoment (cs : List Char) : Bool :=
  afterTime? cs = some [] ||
    match afterDate? cs with
    | none => false
    | some [] => true
    | some (c :: cs) => (c == 'T' || c == 't') && isTime cs

/-- The scalar of a word. -/
def scalar? (cs : List Char) : Option Toml :=
  if cs = ['t', 'r', 'u', 'e'] then some (bool true)
  else if cs = ['f', 'a', 'l', 's', 'e'] then some (bool false)
  else if isMoment cs then some (moment (String.ofList cs))
  else match integer? cs with
    | some n => some (integer n)
    | none => (float? cs).map float

end FilterSql.Toml
