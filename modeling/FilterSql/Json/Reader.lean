import FilterSql.Json.Mismatch
import FilterSql.Word64

/-!
# Reading JSON text

A text is read once from left to right, so of two faults the first decides: a wrong character, an
end that comes too early, or a value of the wrong shape for its place. The readers of shapes
(`textValue`, `count`, `list`, `record`, ...) therefore consume characters themselves instead of
looking at a finished document.

A value that no one keeps is held to fewer rules: it may nest without limit, its numbers need no
range, and its strings may hold half a surrogate pair.

Floating-point numbers are read as a 64-bit significand scaled once by a power of ten. Digits that
do not fit the significand are dropped.
-/

namespace FilterSql

/-- Why a text is refused. -/
inductive Fault where
  /-- A character that cannot stand where it stands. -/
  | malformed
  /-- The text ends too early. -/
  | truncated
  /-- The value does not have the shape its place wants. -/
  | mismatch (m : Mismatch)
  deriving DecidableEq, Repr

/-- A reader takes characters from the front of a text. -/
abbrev Reader := StateT (List Char) (Except Fault)

namespace Reader

def fail {α : Type} (f : Fault) : Reader α :=
  fun _ => .error f

def isSpace (c : Char) : Bool :=
  c == ' ' || c == '\n' || c == '\t' || c == '\r'

/-- The next character that is no space, which stays in the text. -/
def peek? : Reader (Option Char) := do
  let rest := (← get).dropWhile isSpace
  set rest
  return rest.head?

/-- The next character that is no space; the text must have one. -/
def peek : Reader Char := do
  match ← peek? with
  | none => fail .truncated
  | some c => return c

/-- Drops one character. -/
def advance : Reader Unit :=
  modify List.tail

/-- The given characters, one after the other. -/
def word : List Char → Reader Unit
  | [] => pure ()
  | w :: ws => do
    match ← get with
    | [] => fail .truncated
    | c :: rest =>
      set rest
      if c = w then word ws else fail .malformed

/-! ## Strings -/

def hexValue? (c : Char) : Option Nat :=
  if '0' ≤ c ∧ c ≤ '9' then some (c.toNat - 48)
  else if 'a' ≤ c ∧ c ≤ 'f' then some (c.toNat - 87)
  else if 'A' ≤ c ∧ c ≤ 'F' then some (c.toNat - 55)
  else none

/-- The number of four hexadecimal digits. -/
def hex4? (a b c d : Char) : Option Nat := do
  let a ← hexValue? a
  let b ← hexValue? b
  let c ← hexValue? c
  let d ← hexValue? d
  return ((a * 16 + b) * 16 + c) * 16 + d

/-- What is wrong with a code unit for which fewer than four characters are left: the text ends
too early if fewer than four bytes are. -/
def shortUnit (rest : List Char) : Fault :=
  if rest.foldl (fun n c => n + c.utf8Size) 0 < 4 then .truncated else .malformed

/-- What a backslash and this character stand for. -/
def escape? (c : Char) : Option Char :=
  if c = '"' ∨ c = '\\' ∨ c = '/' then some c
  else if c = 'b' then some (Char.ofNat 8)
  else if c = 'f' then some (Char.ofNat 12)
  else if c = 'n' then some '\n'
  else if c = 'r' then some '\r'
  else if c = 't' then some '\t'
  else none

def consChar (c : Char) (r : Except Fault (List Char × List Char)) :
    Except Fault (List Char × List Char) :=
  r.map fun (s, rest) => (c :: s, rest)

/-- The characters of a string up to its closing quote, and the text after it. -/
def stringTail (kept : Bool) : List Char → Except Fault (List Char × List Char)
  | [] => .error .truncated
  | '"' :: rest => .ok ([], rest)
  | '\\' :: 'u' :: a :: b :: c :: d :: rest =>
    match hex4? a b c d with
    | none => .error .malformed
    | some n =>
      if !kept then stringTail kept rest
      else if 0xDC00 ≤ n ∧ n ≤ 0xDFFF then .error .malformed
      else if n < 0xD800 ∨ 0xDFFF < n then consChar (Char.ofNat n) (stringTail kept rest)
      else match rest with
        | '\\' :: 'u' :: e :: f :: g :: h :: rest =>
          match hex4? e f g h with
          | none => .error .malformed
          | some m =>
            if 0xDC00 ≤ m ∧ m ≤ 0xDFFF then
              consChar (Char.ofNat (0x10000 + (n - 0xD800) * 0x400 + (m - 0xDC00)))
                (stringTail kept rest)
            else .error .malformed
        | '\\' :: 'u' :: rest => .error (shortUnit rest)
        | ['\\'] => .error .truncated
        | [] => .error .truncated
        | _ => .error .malformed
  | '\\' :: 'u' :: rest => .error (shortUnit rest)
  | ['\\'] => .error .truncated
  | '\\' :: c :: rest =>
    match escape? c with
    | none => .error .malformed
    | some x => consChar x (stringTail kept rest)
  | c :: rest => if c.toNat < 0x20 then .error .malformed else consChar c (stringTail kept rest)

/-- The rest of a string whose opening quote has been read. -/
def stringRest (kept : Bool) : Reader String := fun cs => do
  let (s, rest) ← stringTail kept cs
  return (String.ofList s, rest)

/-! ## Numbers -/

/-- A number as it is written: the digits before the point, after it, and the exponent's sign and
digits. -/
structure Numeral where
  negative : Bool
  whole : List Char
  fraction : Option (List Char)
  exponent : Option (Bool × List Char)

def digitsFrom : Reader (List Char) := do
  let cs ← get
  set (cs.dropWhile Char.isDigit)
  return cs.takeWhile Char.isDigit

/-- One digit or more. A kept number that ends before its digit is truncated. -/
def someDigits (kept : Bool) : Reader (List Char) := do
  match ← digitsFrom with
  | [] =>
    match ← get with
    | [] => fail (if kept then .truncated else .malformed)
    | _ => fail .malformed
  | ds => return ds

/-- A number after its sign. -/
def numeral (kept negative : Bool) : Reader Numeral := do
  let whole ← someDigits kept
  if whole.head? = some '0' ∧ whole.length > 1 then fail .malformed
  let fraction ← do
    match ← get with
    | '.' :: rest =>
      set rest
      some <$> someDigits kept
    | _ => pure none
  let exponent ← do
    match ← get with
    | c :: rest =>
      if c = 'e' ∨ c = 'E' then
        set rest
        match rest with
        | '+' :: rest => set rest; some <$> Prod.mk false <$> someDigits kept
        | '-' :: rest => set rest; some <$> Prod.mk true <$> someDigits kept
        | _ => some <$> Prod.mk false <$> someDigits kept
      else pure none
    | [] => pure none
  return ⟨negative, whole, fraction, exponent⟩

def digitValue (c : Char) : Nat :=
  c.toNat - 48

def digitsValue (ds : List Char) : Nat :=
  ds.foldl (fun n c => 10 * n + digitValue c) 0

/-- Takes digits into a significand as long as it fits 64 bits, and tells which are left. -/
def takeDigits : Nat → List Char → Nat × List Char
  | n, [] => (n, [])
  | n, d :: ds =>
    if isUInt64 (10 * n + digitValue d) then takeDigits (10 * n + digitValue d) ds else (n, d :: ds)

/-- `10 ^ e` for `e` up to 308. -/
def powerOfTen (e : Nat) : Float :=
  Float.ofScientific 1 false e

/-- A positive number divided by `10 ^ e`, in steps of at most `10 ^ 308`. -/
def scaleDown : Nat → Float → Nat → Float
  | 0, f, _ => f
  | fuel + 1, f, e =>
    if e ≤ 308 then f / powerOfTen e
    else if f == 0 then f
    else scaleDown fuel (f / powerOfTen 308) (e - 308)

/-- A significand scaled by a power of ten; `none` if the result is too large. -/
def scaled? (significand : Nat) (e : Int) : Option Float :=
  let f := significand.toUInt64.toFloat
  if e < 0 then some (scaleDown 8 f e.natAbs)
  else if e ≤ 308 then
    let g := f * powerOfTen e.toNat
    if g.isInf then none else some g
  else if significand = 0 then some f else none

namespace Numeral

/-- The number as a binary64 number; `none` if it is too large for one. -/
def toBinary64? (n : Numeral) : Option Binary64 := do
  let (s, dropped) := takeDigits 0 n.whole
  let (s, skipped) := takeDigits s (n.fraction.getD [])
  let written := (n.fraction.getD []).length - skipped.length
  let shift : Int := match n.exponent with
    | none => 0
    | some (down, ds) => if down then -digitsValue ds else digitsValue ds
  let f ←
    if shift.natAbs < 0x80000000 then scaled? s (dropped.length - written + shift)
    else if s ≠ 0 ∧ shift > 0 then none
    else some 0
  return Binary64.ofFloat (if n.negative then -f else f)

/-- An integer that fits 64 bits with or without sign stays an integer, except `-0`. -/
def toJson? (n : Numeral) : Option Json :=
  let v := digitsValue n.whole
  let float := n.toBinary64?.map Json.float
  match n.fraction, n.exponent with
  | none, none =>
    if n.negative then
      if v = 0 then float else if isInt64 (-v) then some (.integer (-v)) else float
    else if isUInt64 v then some (.integer v) else float
  | _, _ => float

end Numeral

/-- A number, whose first character is next. -/
def number (kept : Bool) : Reader Json := do
  let negative := (← get).head? = some '-'
  if negative then advance
  let n ← numeral kept negative
  if !kept then return .null
  match n.toJson? with
  | none => fail .malformed
  | some j => return j

/-! ## Sequences and objects -/

/-- Whether a sequence goes on, past the comma that this takes. -/
def moreItems (first : Bool) : Reader Bool := do
  match ← peek with
  | ']' => return false
  | c =>
    if first then return true
    if c ≠ ',' then fail .malformed
    advance
    if (← peek) = ']' then fail .malformed
    return true

/-- The name of the next member, or `none` at the end of an object. -/
def memberName? (kept first : Bool) : Reader (Option String) := do
  let c ← peek
  if c = '\x7d' then return none
  if !first then
    if c ≠ ',' then fail .malformed
    advance
  if (← peek) ≠ '"' then fail .malformed
  advance
  some <$> stringRest kept

/-- The colon between a name and its value. -/
def colon : Reader Unit := do
  if (← peek) ≠ ':' then fail .malformed
  advance

/-- The items of a sequence whose bracket has been read, up to the closing one. The fuel bounds
the number of items. -/
def items {σ : Type} (step : σ → Reader σ) : Nat → Bool → σ → Reader σ
  | 0, _, _ => fail .malformed
  | fuel + 1, first, s => do
    if ← moreItems first then
      items step fuel false (← step s)
    else
      advance
      return s

/-- The members of an object whose brace has been read, up to the closing one. A step starts at
the colon. -/
def members {σ : Type} (kept : Bool) (step : String → σ → Reader σ) : Nat → Bool → σ → Reader σ
  | 0, _, _ => fail .malformed
  | fuel + 1, first, s => do
    match ← memberName? kept first with
    | some name => members kept step fuel false (← step name s)
    | none =>
      advance
      return s

/-- One more level of nesting than `depth` levels allow. -/
def enter (kept : Bool) (depth : Nat) : Reader Nat :=
  if kept && depth ≤ 1 then fail .malformed else return depth - 1

/-- Any value. `fuel` bounds the nesting and the lengths of sequences and objects; the length of
the text is enough. -/
def value (kept : Bool) : Nat → Nat → Reader Json
  | 0, _ => fail .malformed
  | fuel + 1, depth => do
    match ← peek with
    | 'n' => advance; word ['u', 'l', 'l']; return .null
    | 't' => advance; word ['r', 'u', 'e']; return .bool true
    | 'f' => advance; word ['a', 'l', 's', 'e']; return .bool false
    | '"' => advance; return .text (← stringRest kept)
    | '[' =>
      advance
      let depth ← enter kept depth
      let js ← items (fun js => return (← value kept fuel depth) :: js) (fuel + 1) true []
      return .array js.reverse
    | '\x7b' =>
      advance
      let depth ← enter kept depth
      let step (name : String) (ms : Members Json) : Reader (Members Json) := do
        colon
        return (name, ← value kept fuel depth) :: ms
      let ms ← members kept step (fuel + 1) true []
      return .object (Members.ofAssignments ms.reverse)
    | c => if c = '-' ∨ c.isDigit then number kept else fail .malformed

/-- How many levels of nesting a kept text may have, and one. -/
def nesting : Nat := 128

def fuelHere : Reader Nat :=
  return (← get).length + 1

/-- Any value, which is kept. -/
def document (depth : Nat) : Reader Json := do
  value true (← fuelHere) depth

/-- Any value, which is dropped. -/
def skip : Reader Unit := do
  discard (value false (← fuelHere) 0)

/-! ## Shapes -/

/-- Refuses the next value, which is not what its place wants. Its text must still be well formed
as far as it has to be read to name it. -/
def refuse {α : Type} (wanted : String) : Reader α := do
  let refuseFound {α : Type} (f : Found) : Reader α := fail (.mismatch (.wrongType f wanted))
  match ← peek with
  | 'n' => advance; word ['u', 'l', 'l']; refuseFound .null
  | 't' => advance; word ['r', 'u', 'e']; refuseFound (.bool true)
  | 'f' => advance; word ['a', 'l', 's', 'e']; refuseFound (.bool false)
  | '"' => advance; refuseFound (.text (← stringRest true))
  | '[' => refuseFound .sequence
  | '\x7b' => refuseFound .map
  | c => if c = '-' ∨ c.isDigit then refuseFound (← number true).found else fail .malformed

/-- A string. -/
def textValue (wanted : String) : Reader String := do
  match ← peek with
  | '"' => advance; stringRest true
  | _ => refuse wanted

/-- A truth value. -/
def truth : Reader Bool := do
  match ← peek with
  | 't' => advance; word ['r', 'u', 'e']; return true
  | 'f' => advance; word ['a', 'l', 's', 'e']; return false
  | _ => refuse "a boolean"

/-- A natural number of 64 bits. -/
def count : Reader Nat := do
  let c ← peek
  if c = '-' ∨ c.isDigit then
    match ← number true with
    | .integer n =>
      if n < 0 then fail (.mismatch (.wrongValue (.integer n) "u64")) else return n.toNat
    | j => fail (.mismatch (.wrongType j.found "u64"))
  else refuse "u64"

/-- `null` or a value. -/
def optional {α : Type} (read : Reader α) : Reader (Option α) := do
  match ← peek? with
  | some 'n' => advance; word ['u', 'l', 'l']; return none
  | _ => some <$> read

/-- A sequence of values of one shape, which are read one level deeper. -/
def list {α : Type} (depth : Nat) (read : Nat → Reader α) : Reader (List α) := do
  match ← peek with
  | '[' =>
    advance
    let depth ← enter true depth
    let xs ← items (fun xs => return (← read depth) :: xs) (← fuelHere) true []
    return xs.reverse
  | _ => refuse "a sequence"

/-- An object with any members. -/
def map (depth : Nat) : Reader (Members Json) := do
  match ← peek with
  | '\x7b' =>
    match ← document depth with
    | .object ms => return ms
    | _ => return []
  | _ => refuse "a map"

/-- One of the named values: its name, or an object with the name and null. -/
def variant {α : Type} (depth : Nat) (known : List String) (find? : String → Option α) :
    Reader α := do
  let named (s : String) : Reader α := match find? s with
    | some a => return a
    | none => fail (.mismatch (.unknownVariant s known))
  match ← peek with
  | '"' => advance; named (← stringRest true)
  | '\x7b' =>
    advance
    discard (enter true depth)
    let a ← named (← textValue "variant identifier")
    colon
    match ← peek with
    | 'n' => advance; word ['u', 'l', 'l']
    | _ => refuse "unit"
    if (← peek) ≠ '\x7d' then fail .malformed
    advance
    return a
  | _ => fail .malformed

/-- A field of a record: its name, and how its value, read at a depth, changes the record. -/
structure RecordField (σ : Type) where
  name : String
  read : Nat → σ → Reader σ

/-- The end of a record that is written as a sequence and has all its fields. -/
def closeSequence : Reader Unit := do
  match ← peek with
  | ']' => advance
  | _ => fail .malformed

/-- The fields of a record written as a sequence, by position. The first `required` fields must
be there. -/
def positions {σ : Type} (depth required : Nat) (wanted : String) :
    Nat → List (RecordField σ) → σ → Reader σ
  | _, [], s => return s
  | i, f :: fs, s => do
    if ← moreItems (i = 0) then
      positions depth required wanted (i + 1) fs (← f.read depth s)
    else if i < required then fail (.mismatch (.tooShort i wanted))
    else return s

/-- A record: an object, in which a known field may stand once and others are skipped, or a
sequence of its fields. The first `required` fields must be there. -/
def record {σ : Type} (depth : Nat) (wanted : String) (fields : List (RecordField σ))
    (required : Nat) (initial : σ) : Reader σ := do
  match ← peek with
  | '[' =>
    advance
    let depth ← enter true depth
    let elements := wanted ++ " with " ++ toString fields.length ++ " elements"
    let s ← positions depth required elements 0 fields initial
    closeSequence
    return s
  | '\x7b' =>
    advance
    let depth ← enter true depth
    let step (name : String) (s : σ × List String) : Reader (σ × List String) :=
      match fields.find? (·.name = name) with
      | none => do colon; skip; return s
      | some f => do
        if name ∈ s.2 then fail (.mismatch (.duplicateField name))
        colon
        return (← f.read depth s.1, name :: s.2)
    let (s, seen) ← members true step (← fuelHere) true (initial, [])
    match (fields.take required).find? (!seen.contains ·.name) with
    | some f => fail (.mismatch (.missingField f.name))
    | none => return s
  | _ => refuse wanted

/-- Reads a whole text, which may end in spaces. -/
def whole {α : Type} (read : Reader α) (s : String) : Except Fault α := do
  let (a, rest) ← read s.toList
  if rest.all isSpace then return a else .error .malformed

end Reader

/-- The document of a JSON text. -/
def Json.parse (s : String) : Except Fault Json :=
  Reader.whole (Reader.document Reader.nesting) s

end FilterSql
