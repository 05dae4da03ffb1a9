import FilterSql.Clause.Basic
import Mathlib.Data.List.Chain

/-!
# Reading tokens as a formula

The tokens of a filter are read from left to right, as SQL reads its operators: AND binds tighter
than OR, and parentheses open a level of their own. What is read at a level is a list of
alternatives, each a list of factors that hold together, and a factor is a test or what was read
between parentheses. `read` fails where an operand or a parenthesis is missing or is one too many.
So a reading has one group for each pair of parentheses, and no operator of its tokens leads,
trails or is doubled at any level (`wellPlaced_of_read`).

A sequence of tokens is read as a factor when the reader has that factor where it had to read the
tokens (`ReadsAs`). Members with OR between them are read as one alternative each
(`read_following_or`), and members with AND between them as factors of the same one
(`read_following_and`).
-/

namespace FilterSql

/-- A test, or alternatives in parentheses, each of factors that hold together. -/
inductive Factor where
  | test (t : Test)
  | group (alternatives : List (List Factor))

namespace Factor

variable (ρ : Test → Bool)

mutual

/-- The truth of a factor under an assignment to the tests. -/
def eval : Factor → Bool
  | test t => ρ t
  | group alternatives => evalAny alternatives

/-- The truth of factors that hold together. -/
def evalAll : List Factor → Bool
  | [] => true
  | f :: fs => eval f && evalAll fs

/-- The truth of alternatives. -/
def evalAny : List (List Factor) → Bool
  | [] => false
  | fs :: alternatives => evalAll fs || evalAny alternatives

end

theorem evalAll_eq_all (fs : List Factor) : evalAll ρ fs = fs.all (eval ρ) := by
  induction fs with
  | nil => rfl
  | cons f fs ih => rw [evalAll, ih, List.all_cons]

end Factor

/-- What has been read of a level: the alternatives before the current one, the factors of the
current one, and whether an operand has to come next. -/
structure Reading where
  before : List (List Factor)
  current : List Factor
  awaits : Bool

namespace Reading

/-- A level of which nothing has been read. -/
def start : Reading := ⟨[], [], true⟩

/-- The alternatives that have been read. -/
def alternatives (l : Reading) : List (List Factor) :=
  l.before ++ [l.current]

/-- A level after one more operand. -/
def push (l : Reading) (f : Factor) : Reading :=
  ⟨l.before, l.current ++ [f], false⟩

end Reading

namespace Token

/-- Reads tokens at a level, with the levels around it that are still open. -/
def readFrom : (outer : List Reading) → Reading → List Token → Option (List (List Factor))
  | [], l, [] => if l.awaits then none else some l.alternatives
  | _ :: _, _, [] => none
  | outer, l, .test t :: ts => if l.awaits then readFrom outer (l.push (.test t)) ts else none
  | outer, l, .and :: ts =>
    if l.awaits then none else readFrom outer { l with awaits := true } ts
  | outer, l, .or :: ts => if l.awaits then none else readFrom outer ⟨l.alternatives, [], true⟩ ts
  | outer, l, .opening :: ts => if l.awaits then readFrom (l :: outer) .start ts else none
  | [], _, .closing :: _ => none
  | o :: outer, l, .closing :: ts =>
    if l.awaits then none else readFrom outer (o.push (.group l.alternatives)) ts

/-- The alternatives that tokens are read as. -/
def read (ts : List Token) : Option (List (List Factor)) :=
  readFrom [] .start ts

/-- Whether an operand has to come after a token. -/
def awaits : Token → Bool
  | opening | and | or => true
  | test _ | closing => false

/-- Whether a token begins an operand. -/
def begins : Token → Bool
  | test _ | opening => true
  | closing | and | or => false

/-- Whether operators stand only between operands, in all parentheses and around them. -/
def WellPlaced (ts : List Token) : Prop :=
  List.IsChain (fun a b => a.awaits = b.begins) (.opening :: (ts ++ [.closing]))

variable {ts : List Token} {outer : List Reading} {l : Reading} {e : List (List Factor)}

/-- A token that is read begins an operand where one has to come, and no operand elsewhere. Reading
goes on at a level that waits for an operand if the token does. -/
theorem readFrom_cons {a : Token} (h : readFrom outer l (a :: ts) = some e) :
    l.awaits = a.begins ∧ ∃ outer' l', readFrom outer' l' ts = some e ∧ l'.awaits = a.awaits := by
  cases a with
  | test t =>
    rw [readFrom, Option.ite_none_right_eq_some] at h
    exact ⟨h.1, _, _, h.2, rfl⟩
  | opening =>
    rw [readFrom, Option.ite_none_right_eq_some] at h
    exact ⟨h.1, _, _, h.2, rfl⟩
  | and =>
    rw [readFrom, Option.ite_none_left_eq_some] at h
    exact ⟨Bool.eq_false_iff.mpr h.1, _, _, h.2, rfl⟩
  | or =>
    rw [readFrom, Option.ite_none_left_eq_some] at h
    exact ⟨Bool.eq_false_iff.mpr h.1, _, _, h.2, rfl⟩
  | closing =>
    cases outer with
    | nil => simp [readFrom] at h
    | cons o outer =>
      rw [readFrom, Option.ite_none_left_eq_some] at h
      exact ⟨Bool.eq_false_iff.mpr h.1, _, _, h.2, rfl⟩

/-- Tokens that can be read end with no operand outstanding. -/
theorem readFrom_nil (h : readFrom outer l [] = some e) : l.awaits = false := by
  cases outer with
  | nil =>
    rw [readFrom, Option.ite_none_left_eq_some] at h
    exact Bool.eq_false_iff.mpr h.1
  | cons o outer => simp [readFrom] at h

/-- Tokens that can be read have their operators in place, after a token that waits for an operand
if the level does. -/
theorem isChain_of_readFrom {a : Token} (h : readFrom outer l ts = some e)
    (ha : a.awaits = l.awaits) :
    List.IsChain (fun a b => a.awaits = b.begins) (a :: (ts ++ [.closing])) := by
  induction ts generalizing outer l a with
  | nil =>
    have hl := readFrom_nil h
    simp [ha, hl, begins]
  | cons b ts ih =>
    obtain ⟨hb, outer', l', hrest, hl'⟩ := readFrom_cons h
    rw [List.cons_append, List.isChain_cons_cons]
    exact ⟨ha.trans hb, ih hrest hl'.symm⟩

/-- Tokens that can be read have their operators only between operands. -/
theorem wellPlaced_of_read (h : read ts = some e) : WellPlaced ts :=
  isChain_of_readFrom h rfl

end Token

namespace Clause

/-- Whether the tokens of a clause are read as a factor, wherever an operand may stand. -/
def ReadsAs (c : Clause) (f : Factor) : Prop :=
  ∀ outer l rest, l.awaits = true →
    Token.readFrom outer l (c.tokens ++ rest) = Token.readFrom outer (l.push f) rest

theorem readsAs_test (t : Test) : (Clause.test t).ReadsAs (.test t) := by
  intro outer l rest hl
  rw [tokens, List.singleton_append, Token.readFrom, if_pos hl]

/-- More members with AND before them are more factors of the current alternative. -/
theorem read_following_and {members : List Clause} {fs : List Factor}
    (h : List.Forall₂ ReadsAs members fs) (outer : List Reading) (before : List (List Factor))
    (current : List Factor) (rest : List Token) :
    Token.readFrom outer ⟨before, current, false⟩ (following .and members ++ rest) =
      Token.readFrom outer ⟨before, current ++ fs, false⟩ rest := by
  induction h generalizing current with
  | nil => simp [following]
  | cons hm hms ih =>
    rw [following, List.cons_append, List.append_assoc, Token.readFrom, if_neg Bool.false_ne_true,
      hm outer _ _ rfl, Reading.push, ih, List.append_assoc, List.singleton_append]

/-- More members with OR before them are alternatives of their own. -/
theorem read_following_or {members : List Clause} {fs : List Factor}
    (h : List.Forall₂ ReadsAs members fs) (outer : List Reading) (before : List (List Factor))
    (current : List Factor) (rest : List Token) :
    ∃ l : Reading, l.alternatives = before ++ current :: fs.map (fun f => [f]) ∧ l.awaits = false ∧
      Token.readFrom outer ⟨before, current, false⟩ (following .or members ++ rest) =
        Token.readFrom outer l rest := by
  induction h generalizing before current with
  | nil => exact ⟨⟨before, current, false⟩, rfl, rfl, by simp [following]⟩
  | cons hm hms ih =>
    rename_i m f ms fs
    obtain ⟨l, halternatives, hl, hread⟩ := ih (before ++ [current]) [f]
    refine ⟨l, ?_, hl, ?_⟩
    · rw [halternatives, List.append_assoc, List.singleton_append, List.map_cons]
    · rw [following, List.cons_append, List.append_assoc, Token.readFrom, if_neg Bool.false_ne_true,
        hm outer _ _ rfl]
      exact hread

/-- A group of members is read as a group, with an alternative for each member. -/
theorem readsAs_any {m : Clause} {ms : List Clause} {fs : List Factor}
    (h : List.Forall₂ ReadsAs (m :: ms) fs) :
    (Clause.any (m :: ms)).ReadsAs (.group (fs.map fun f => [f])) := by
  intro outer l rest hl
  cases h with
  | cons hm hms =>
    rename_i f fs
    obtain ⟨inner, halternatives, hinner, hread⟩ :=
      read_following_or hms (l :: outer) [] [f] (.closing :: rest)
    have hmembers : Token.readFrom (l :: outer) .start
        (joined .or (m :: ms) ++ .closing :: rest) =
        Token.readFrom (l :: outer) inner (.closing :: rest) := by
      rw [joined, List.append_assoc, hm _ _ _ rfl]
      exact hread
    -- The parenthesis opens a level, the members fill it, and the closing one makes it an operand.
    rw [tokens, List.cons_append, List.append_assoc, List.singleton_append, Token.readFrom,
      if_pos hl, hmembers, Token.readFrom, hinner, if_neg Bool.false_ne_true, halternatives]
    rfl

/-- Members with AND between them are read as one alternative. -/
theorem read_joined_and {m : Clause} {ms : List Clause} {fs : List Factor}
    (h : List.Forall₂ ReadsAs (m :: ms) fs) :
    Token.read (joined .and (m :: ms)) = some [fs] := by
  cases h with
  | cons hm hms =>
    rename_i f fs
    have hend := read_following_and hms [] [] [f] []
    rw [Token.read, joined, hm _ _ _ rfl]
    rw [List.append_nil] at hend
    exact hend

end Clause

end FilterSql
