import FilterSql.Binary64.Basic
import FilterSql.Log

/-!
# The fragment cache

The SQL of columns, select lists and orders is kept by kind, language and tokens. Nothing is
dropped from the cache on its own; all of it is on a tick whose counter is a multiple of the
period. The counts of hits and misses go on through a clearing.
-/

namespace FilterSql

/-- What a cached text is the SQL of. -/
inductive FragmentKind where
  | column
  | fields
  | sort
  deriving DecidableEq, Repr

/-- What a cached text is found by. -/
structure CacheKey where
  kind : FragmentKind
  language : String
  tokens : String
  deriving DecidableEq, Repr

/-- The cached texts, with counts of how often a text was found and not found. -/
structure Cache where
  entries : List (CacheKey × String) := []
  hits : Nat := 0
  misses : Nat := 0
  deriving Repr

namespace Cache

/-- Stands between the tokens of a list. -/
def separator : String := "\u001f"

/-- The tokens of a list as one text. -/
def joinTokens (tokens : List String) : String :=
  String.intercalate separator tokens

/-- The text that the cache has for a key, else `text`, which is then kept; and whether it was
computed. -/
def fetch (c : Cache) (key : CacheKey) (text : String) : (String × Bool) × Cache :=
  match c.entries.lookup key with
  | some kept => ((kept, false), { c with hits := c.hits + 1 })
  | none =>
    ((text, true), { c with entries := (key, text) :: c.entries, misses := c.misses + 1 })

def clear (c : Cache) : Cache :=
  { c with entries := [] }

/-- Whether a tick clears the cache. A period of 0 never does. -/
def clearsOn (clearEvery counter : Nat) : Bool :=
  clearEvery != 0 && counter % clearEvery == 0

/-- How many of a hundred requests were found. -/
def hitRate (c : Cache) : Binary64 :=
  let total := c.hits + c.misses
  if total = 0 then .zero
  else .ofFloat (c.hits.toUInt64.toFloat / total.toUInt64.toFloat * 100)

end Cache

/-- What a compilation works with and leaves behind. -/
structure Session where
  cache : Cache := {}
  log : List LogEntry := []

namespace Session

def record (s : Session) (e : LogEntry) : Session :=
  { s with log := s.log ++ [e] }

/-- Drops every cached text. -/
def invalidate (s : Session) : Session :=
  let message :=
    "Cleared " ++ toString s.cache.entries.length ++ " fragment cache entries"
  { s with cache := s.cache.clear }.record { level := .debug, message }

/-- A maintenance tick; tells whether it cleared the cache. -/
def tick (s : Session) (clearEvery counter : Nat) : Bool × Session :=
  if Cache.clearsOn clearEvery counter then (true, s.invalidate) else (false, s)

/-- Fetches a text from the cache. -/
def fetch (s : Session) (key : CacheKey) (text : String) : String × Session :=
  let (found, cache) := s.cache.fetch key text
  (found.1, { s with cache })

end Session

end FilterSql
