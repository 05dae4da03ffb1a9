import FilterSql.Toml.Scalar

/-!
# Reading TOML text

A text is a sequence of lines: blank lines, comments, headers and entries, of which only an entry
can go over several lines. Reading gives the sections of the text, and `Toml.ofSections?` puts
them together. A text that is no document is refused without a reason.
-/

namespace FilterSql.Toml

/-- A reader takes characters from the front of a text. -/
abbrev Reader := StateT (List Char) Option

namespace Reader

/-! ## Blanks and comments -/

def isBlank (c : Char) : Bool :=
  c == ' ' || c == '\t'

/-- A character that may stand in a comment or, if it is not a quote, in a string. -/
def isPlain (c : Char) : Bool :=
  c == '\t' || (c.toNat ≥ 0x20 && c.toNat ≠ 0x7F)

/-- The text after a line end, if it starts with one. -/
def afterNewline? : List Char → Option (List Char)
  | '\n' :: cs => some cs
  | '\r' :: '\n' :: cs => some cs
  | _ => none

def skipBlanks : Reader Unit :=
  modify (·.dropWhile isBlank)

/-- Skips a comment, if there is one. -/
def skipComment : Reader Unit :=
  modify fun cs => match cs with
    | '#' :: cs => cs.dropWhile isPlain
    | cs => cs

/-- The rest of a line after its entry or header. -/
def lineEnd : Reader Unit := do
  skipBlanks
  skipComment
  match ← get with
  | [] => return
  | cs => set (← afterNewline? cs)

/-- Skips blanks, line ends and comments, at most as many as the fuel allows. -/
def skipLines : Nat → Reader Unit
  | 0 => return
  | fuel + 1 => do
    skipBlanks
    skipComment
    match afterNewline? (← get) with
    | none => return
    | some cs =>
      set cs
      skipLines fuel

/-- Fuel for a loop in which every round takes a character. -/
def fuelHere : Reader Nat :=
  return (← get).length + 1

/-- The given character. -/
def char (c : Char) : Reader Unit := do
  match ← get with
  | d :: cs => if c = d then set cs else failure
  | [] => failure

/-- Takes the given character, if it is next, and tells whether it was. -/
def charHere? (c : Char) : Reader Bool := do
  match ← get with
  | d :: cs => if c = d then set cs; return true else return false
  | [] => return false

/-! ## Strings -/

/-- The character of a code point in hexadecimal digits. -/
def codePoint? (ds : List Char) : Option Char :=
  let n := number 16 ds
  if ds.all (isDigitOf 16) ∧ n.isValidChar then some (Char.ofNat n) else none

/-- What a backslash and this character stand for. -/
def escape? (c : Char) : Option Char :=
  if c = '"' ∨ c = '\\' then some c
  else if c = 'b' then some (Char.ofNat 8)
  else if c = 'f' then some (Char.ofNat 12)
  else if c = 'n' then some '\n'
  else if c = 'r' then some '\r'
  else if c = 't' then some '\t'
  else none

def consChar (c : Char) (r : Option (List Char × List Char)) : Option (List Char × List Char) :=
  r.map fun (s, rest) => (c :: s, rest)

/-- The characters of a string up to its closing quote, and the text after it. -/
def quotedTail : List Char → Option (List Char × List Char)
  | [] => none
  | '"' :: cs => some ([], cs)
  | '\\' :: 'u' :: a :: b :: c :: d :: cs => do
    consChar (← codePoint? [a, b, c, d]) (quotedTail cs)
  | '\\' :: 'U' :: a :: b :: c :: d :: e :: f :: g :: h :: cs => do
    consChar (← codePoint? [a, b, c, d, e, f, g, h]) (quotedTail cs)
  | '\\' :: c :: cs => do consChar (← escape? c) (quotedTail cs)
  | c :: cs => if isPlain c then consChar c (quotedTail cs) else none

/-- The quotes that belong to a string of several lines, and the text after it, where its three
closing quotes are next. -/
def closing? (quote : Char) (cs : List Char) : Option (List Char × List Char) :=
  let quotes := (cs.takeWhile (· = quote)).length
  if quotes < 3 then none
  else some (List.replicate (min (quotes - 3) 2) quote, cs.drop (min quotes 5))

/-- Whether a line ends here, blanks aside. -/
def endsLine (cs : List Char) : Bool :=
  (afterNewline? (cs.dropWhile isBlank)).isSome

/-- The characters of a string of several lines, and the text after it. While `joining`, blanks and
line ends are dropped. -/
def linesTail : (joining : Bool) → List Char → Option (List Char × List Char)
  | _, [] => none
  | joining, '\r' :: '\n' :: cs =>
    if joining then linesTail true cs else consChar '\n' (linesTail false cs)
  | joining, '\n' :: cs => if joining then linesTail true cs else consChar '\n' (linesTail false cs)
  | _, '\\' :: 'u' :: a :: b :: c :: d :: cs => do
    consChar (← codePoint? [a, b, c, d]) (linesTail false cs)
  | _, '\\' :: 'U' :: a :: b :: c :: d :: e :: f :: g :: h :: cs => do
    consChar (← codePoint? [a, b, c, d, e, f, g, h]) (linesTail false cs)
  | _, '\\' :: c :: cs =>
    match escape? c with
    | some x => consChar x (linesTail false cs)
    | none => if endsLine (c :: cs) then linesTail true (c :: cs) else none
  | joining, c :: cs =>
    if joining && isBlank c then linesTail true cs
    else match closing? '"' (c :: cs) with
      | some closed => some closed
      | none => if isPlain c then consChar c (linesTail false cs) else none

/-- The characters of a string of several lines without escapes, and the text after it. -/
def literalLinesTail : List Char → Option (List Char × List Char)
  | [] => none
  | '\r' :: '\n' :: cs => consChar '\n' (literalLinesTail cs)
  | '\n' :: cs => consChar '\n' (literalLinesTail cs)
  | c :: cs =>
    match closing? '\'' (c :: cs) with
    | some closed => some closed
    | none => if isPlain c then consChar c (literalLinesTail cs) else none

/-- A string on one line without escapes, and the text after it. -/
def literalTail (cs : List Char) : Option (List Char × List Char) :=
  let inside := cs.takeWhile fun c => isPlain c && c != '\''
  match cs.dropWhile fun c => isPlain c && c != '\'' with
  | '\'' :: rest => some (inside, rest)
  | _ => none

/-- The text of a string of several lines, without the line end that its quotes may be followed
by. -/
def withoutFirstNewline (cs : List Char) : List Char :=
  (afterNewline? cs).getD cs

/-- A string on one line. -/
def lineString? : List Char → Option (List Char × List Char)
  | '"' :: cs => quotedTail cs
  | '\'' :: cs => literalTail cs
  | _ => none

/-- A string of any kind. -/
def string? : List Char → Option (List Char × List Char)
  | '"' :: '"' :: '"' :: cs => linesTail false (withoutFirstNewline cs)
  | '\'' :: '\'' :: '\'' :: cs => literalLinesTail (withoutFirstNewline cs)
  | cs => lineString? cs

/-- Reads a string. -/
def string (read : List Char → Option (List Char × List Char)) : Reader String := fun cs => do
  let (s, rest) ← read cs
  return (String.ofList s, rest)

/-! ## Keys -/

def isKeyChar (c : Char) : Bool :=
  c.isAlphanum || c == '_' || c == '-'

/-- A key between points. -/
def simpleKey : Reader String := do
  let cs ← get
  if (lineString? cs).isSome then string lineString?
  else
    let key := cs.takeWhile isKeyChar
    if key.isEmpty then failure
    set (cs.drop key.length)
    return String.ofList key

/-- The keys of a dotted key, last first, after the ones that have been read. -/
def moreKeys : Nat → List String → Reader (List String)
  | 0, _ => failure
  | fuel + 1, keys => do
    skipBlanks
    let keys := (← simpleKey) :: keys
    skipBlanks
    if ← charHere? '.' then moreKeys fuel keys else return keys

/-- How deep tables and arrays may lie in one another, and one. -/
def nesting : Nat := 80

/-- A dotted key. -/
def key : Reader (List String) := do
  return (← moreKeys (nesting - 1) []).reverse

/-! ## Values -/

/-- A scalar without quotes. A date may be followed by a blank and a time. -/
def scalar : Reader Toml := do
  let cs ← get
  let word := cs.takeWhile isScalarChar
  let rest := cs.drop word.length
  let time := (rest.drop 1).takeWhile isScalarChar
  if isDate word && rest.head? == some ' ' && time.head?.any Char.isDigit then
    if !isTime time then failure
    set (rest.drop (1 + time.length))
    return .moment (String.ofList (word ++ ' ' :: time))
  else
    set rest
    scalar? word

/-- The values of an array after its bracket, each one read by `read`, last first. -/
def items (read : Reader Toml) : Nat → List Toml → Reader (List Toml)
  | 0, _ => failure
  | fuel + 1, values => do
    skipLines (← fuelHere)
    if ← charHere? ']' then return values
    let values := (← read) :: values
    skipLines (← fuelHere)
    if ← charHere? ',' then items read fuel values
    else
      char ']'
      return values

/-- A key, and its value as `read` reads it. -/
def entry (read : Reader Toml) : Reader (List String × Toml) := do
  let key ← key
  char '='
  skipBlanks
  return (key, ← read)

/-- The entries of an inline table that has one, last first. -/
def entries (read : Reader Toml) :
    Nat → List (List String × Toml) → Reader (List (List String × Toml))
  | 0, _ => failure
  | fuel + 1, assignments => do
    let assignments := (← entry read) :: assignments
    skipBlanks
    if ← charHere? ',' then entries read fuel assignments
    else
      char '\x7d'
      return assignments

/-- A value, in which arrays and tables may lie in one another less than `depth` deep. -/
def value : (depth : Nat) → Reader Toml
  | 0 => failure
  | depth + 1 => do
    match ← get with
    | '"' :: _ => .text <$> string string?
    | '\'' :: _ => .text <$> string string?
    | '[' :: cs =>
      if depth = 0 then failure
      set cs
      return .array (← items (value depth) (← fuelHere) []).reverse
    | '\x7b' :: cs =>
      if depth = 0 then failure
      set (cs.dropWhile isBlank)
      if ← charHere? '\x7d' then return .table .inline []
      let assignments ← entries (value depth) (← fuelHere) []
      return .table .inline (← assignAll assignments.reverse [])
    | _ => scalar

/-! ## Sections -/

/-- A header whose first bracket has been read: whether it stands in double brackets, and its
key. -/
def header : Reader (Bool × List String) := do
  let repeated ← charHere? '['
  let key ← key
  char ']'
  if repeated then char ']'
  lineEnd
  return (repeated, key)

/-- The sections of a text, last first; the last one of `read` is still open, and its entries are
in reverse. -/
def sections : Nat → TomlSection → List TomlSection → Reader (List TomlSection)
  | 0, _, _ => failure
  | fuel + 1, current, read => do
    let close (s : TomlSection) : TomlSection := { s with entries := s.entries.reverse }
    skipLines (← fuelHere)
    if (← get).isEmpty then return close current :: read
    if ← charHere? '[' then
      let (repeated, header) ← header
      sections fuel { repeated, header, entries := [] } (close current :: read)
    else
      let assignment ← entry (value nesting)
      lineEnd
      sections fuel { current with entries := assignment :: current.entries } read

end Reader

/-- The document of a TOML text, which may start with a byte order mark. -/
def parse? (s : String) : Option (Members Toml) := do
  let cs := match s.toList with
    | '\uFEFF' :: cs => cs
    | cs => cs
  let first : TomlSection := { repeated := false, header := [], entries := [] }
  let (sections, _) ← Reader.sections (cs.length + 1) first [] cs
  ofSections? sections.reverse

end FilterSql.Toml
