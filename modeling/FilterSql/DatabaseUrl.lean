import FilterSql.Postgres.Executor

/-!
# Database URLs

What is wrong with a database URL before anything is connected to: it has no scheme, the number
behind its host is none, or there is no host between its credentials and that number.
-/

namespace FilterSql.DatabaseUrl

/-- A character that is dropped from the ends of a URL. -/
def isMargin (c : Char) : Bool :=
  c.toNat ≤ 0x20

/-- A character that is dropped wherever it stands. -/
def isBreak (c : Char) : Bool :=
  c == '\t' || c == '\n' || c == '\r'

/-- A URL without what is dropped from it. -/
def clean (cs : List Char) : List Char :=
  ((cs.dropWhile isMargin).reverse.dropWhile isMargin).reverse.filter (!isBreak ·)

def isSchemeChar (c : Char) : Bool :=
  c.isAlphanum || c == '+' || c == '-' || c == '.'

/-- The text after the scheme, if there is one. -/
def afterScheme? (cs : List Char) : Option (List Char) :=
  match cs.takeWhile isSchemeChar, cs.dropWhile isSchemeChar with
  | c :: _, ':' :: rest => if c.isAlpha then some rest else none
  | _, _ => none

/-- Whether the text after the colon behind a host is a number of sixteen bits or nothing. -/
def isHostNumber (cs : List Char) : Bool :=
  cs.all Char.isDigit && cs.foldl (fun n c => 10 * n + (c.toNat - 48)) 0 < 65536

/-- The host of an authority without its credentials, and what follows the colon behind it. A host
in brackets may have colons. -/
def splitHost (cs : List Char) : List Char × Option (List Char) :=
  let bracketed := if cs.head? = some '[' then cs.takeWhile (· ≠ ']') else []
  let rest := cs.drop bracketed.length
  let host := bracketed ++ rest.takeWhile (· ≠ ':')
  match rest.dropWhile (· ≠ ':') with
  | [] => (host, none)
  | _ :: number => (host, some number)

/-- What is wrong with the text after two slashes. -/
def authorityFault? (cs : List Char) : Option String :=
  let authority := cs.takeWhile fun c => c != '/' && c != '?' && c != '#'
  let afterCredentials := (authority.reverse.takeWhile (· ≠ '@')).reverse
  let (host, number) := splitHost afterCredentials
  if host.isEmpty && (number.isSome || authority.contains '@') then some "empty host"
  else if !isHostNumber (number.getD []) then some "invalid port number"
  else none

/-- What is wrong with a URL. -/
def fault? (url : String) : Option DriverError :=
  let reason := match afterScheme? (clean url.toList) with
    | none => some "relative URL without a base"
    | some ('/' :: '/' :: rest) => authorityFault? rest
    | some _ => none
  reason.map .configuration

end FilterSql.DatabaseUrl
