import FilterSql.Proofs.Filter

/-!
# Fragments and their text

The text of a fragment is the text of its parts, each after the parameters of the parts before it
(`sql_append`), and its values are those of its parts in order. The fragment of a filter is
described without tokens: a group is its members' fragments with ` OR ` between them, in
parentheses (`fragment?_any`), and a filter is its conditions' fragments with ` AND ` between them,
after ` WHERE ` (`filterFragment_eq`).
-/

namespace FilterSql

/-- Flattening what a function gives for the members of a list, where it gives anything. -/
theorem flatMap_filterMap {α β γ : Type} {f : α → Option β} {g : β → List γ} {h : α → List γ}
    {l : List α} (hl : ∀ a ∈ l, (f a).toList.flatMap g = h a) :
    (l.filterMap f).flatMap g = l.flatMap h := by
  induction l with
  | nil => rfl
  | cons a l ih =>
    have ha := hl a (by simp)
    have htail := ih fun a ha => hl a (by simp [ha])
    rw [List.filterMap_cons, List.flatMap_cons, ← ha, ← htail]
    cases f a <;> simp

namespace Fragment

@[simp]
theorem values_nil : values [] = [] := rfl

@[simp]
theorem values_text (s : String) (f : Fragment) : values (.text s :: f) = values f := rfl

@[simp]
theorem values_truth (b : Bool) (f : Fragment) : values (.truth b :: f) = values f := rfl

@[simp]
theorem values_value (v : Value) (f : Fragment) : values (.value v :: f) = v :: values f := rfl

@[simp]
theorem values_append (f g : Fragment) : values (f ++ g) = values f ++ values g :=
  List.filterMap_append

@[simp]
theorem values_bind (v : Value) : values (bind v) = [v.resolve] := rfl

/-- A list of values has the places of its values, also where it is empty. -/
@[simp]
theorem values_bindList (vs : List Value) : values (bindList vs) = vs.map Value.resolve := by
  cases vs with
  | nil => rfl
  | cons v vs =>
    rw [bindList, values_value, List.map_cons]
    congr 1
    induction vs with
    | nil => rfl
    | cons w vs ih => rw [List.flatMap_cons, values_append, ih]; rfl

theorem join_cons_cons (separator : String) (f g : Fragment) (gs : List Fragment) :
    join separator (f :: g :: gs) = f ++ .text separator :: join separator (g :: gs) := rfl

@[simp]
theorem values_join (separator : String) (fs : List Fragment) :
    values (join separator fs) = fs.flatMap values := by
  induction fs with
  | nil => rfl
  | cons f fs ih =>
    cases fs with
    | nil => simp [join]
    | cons g gs => rw [join_cons_cons, values_append, values_text, ih]; rfl

@[simp]
theorem params_parameterized (f : Fragment) : f.params .parameterized = f.values := rfl

@[simp]
theorem params_inline (f : Fragment) : f.params .inline = [] := rfl

/-- The text of a part starts after the parameters of the part before it. -/
theorem sql_append (d : Dialect) (mode : BindMode) (n : Nat) (f g : Fragment) :
    (f ++ g).sql d mode n = f.sql d mode n ++ g.sql d mode (n + (f.params mode).length) := by
  induction f generalizing n with
  | nil => simp [sql, params]; cases mode <;> simp
  | cons p f ih =>
    rw [List.cons_append]
    cases p with
    | text s => cases mode <;> simp [sql, ih, String.append_assoc]
    | truth b => cases mode <;> simp [sql, ih, String.append_assoc]
    | value v =>
      cases mode with
      | parameterized =>
        have hn : n + ((values f).length + 1) = n + 1 + (values f).length := by omega
        simp [sql, ih, String.append_assoc, hn]
      | inline => simp [sql, ih, String.append_assoc]

theorem length_sqlEach (d : Dialect) (mode : BindMode) (n : Nat) (fs : List Fragment) :
    (sqlEach d mode n fs).length = fs.length := by
  induction fs generalizing n with
  | nil => rfl
  | cons f fs ih => rw [sqlEach, List.length_cons, ih, List.length_cons]

/-- The text of fragments with a separator between them is their texts with it between them, for the
separator binds nothing. -/
theorem sql_join (d : Dialect) (mode : BindMode) (separator : String) (n : Nat)
    (fs : List Fragment) :
    (join separator fs).sql d mode n =
      String.intercalate separator (sqlEach d mode n fs) := by
  induction fs generalizing n with
  | nil => rfl
  | cons f fs ih =>
    cases fs with
    | nil => rw [join, sqlEach, sqlEach, String.intercalate_singleton]
    | cons g gs =>
      rw [join_cons_cons, sql_append, sql, ih]
      simp only [sqlEach, String.intercalate_cons_cons, String.append_assoc]

end Fragment

/-! ## The fragment of a filter -/

namespace Token

/-! A test is written as it is. Every other token is a fixed text, in which no value is bound. -/

@[simp]
theorem fragment_test (t : Test) : (test t).fragment = t.fragment := rfl

@[simp]
theorem fragment_opening : opening.fragment = [.text "("] := rfl

@[simp]
theorem fragment_closing : closing.fragment = [.text ")"] := rfl

@[simp]
theorem fragment_and : and.fragment = [.text " AND "] := rfl

@[simp]
theorem fragment_or : or.fragment = [.text " OR "] := rfl

end Token

/-- The SQL of a clause. -/
def Clause.fragment (c : Clause) : Fragment :=
  c.tokens.flatMap Token.fragment

/-- What stands between the members of a group, or between the conditions of a filter. -/
def Token.sql : Token → String
  | and => " AND "
  | or => " OR "
  | _ => ""

theorem Clause.fragment_test (t : Test) : (Clause.test t).fragment = t.fragment := by
  simp [fragment, tokens]

/-- Clauses written with an operator between them are their fragments with its SQL between them. -/
theorem Clause.flatMap_joined {operator : Token} (h : operator.fragment = [.text operator.sql])
    (cs : List Clause) :
    (joined operator cs).flatMap Token.fragment =
      Fragment.join operator.sql (cs.map fragment) := by
  -- Tokens have the operator before each member but the first, `join` after each but the last.
  have hfollowing : ∀ c cs, c.fragment ++ (following operator cs).flatMap Token.fragment =
      Fragment.join operator.sql ((c :: cs).map fragment) := by
    intro c cs
    induction cs generalizing c with
    | nil => simp [following, Fragment.join]
    | cons c' cs ih =>
      rw [following, List.flatMap_cons, List.flatMap_append, h, List.map_cons, List.map_cons,
        Fragment.join_cons_cons, ← List.map_cons, ← ih c']
      rfl
  cases cs with
  | nil => rfl
  | cons c cs => rw [joined, List.flatMap_append]; exact hfollowing c cs

theorem Clause.fragment_any (members : List Clause) :
    (Clause.any members).fragment =
      .text "(" :: (Fragment.join " OR " (members.map fragment) ++ [.text ")"]) := by
  have h := flatMap_joined Token.fragment_or members
  rw [fragment, tokens, List.flatMap_cons, List.flatMap_append, h]
  rfl

namespace Condition

variable (column : String → String)

/-- The SQL of a condition, if it emits anything. -/
def fragment? (c : Condition) : Option Fragment :=
  (c.clause? column).map Clause.fragment

/-- The clauses of conditions are those of the ones that emit anything, in order. -/
theorem clauses_eq_filterMap (cs : List Condition) :
    clauses column cs = cs.filterMap (clause? column) := by
  induction cs with
  | nil => rfl
  | cons c cs ih =>
    rw [clauses, ih, List.filterMap_cons]
    cases c.clause? column <;> rfl

theorem clause?_of_isTest {c : Condition} (h : c.isTest) :
    c.clause? column = (c.test? column).map .test := by
  cases c with
  | any _ | unknown _ => simp [isTest] at h
  | _ => rfl

theorem fragment?_of_isTest {c : Condition} (h : c.isTest) :
    c.fragment? column = (c.test? column).map Test.fragment := by
  rw [fragment?, clause?_of_isTest column h, Option.map_map]
  congr 1
  funext t
  exact Clause.fragment_test t

@[simp]
theorem fragment?_unknown (kind : String) : (unknown kind).fragment? column = none := rfl

theorem map_fragment_clauses (cs : List Condition) :
    (clauses column cs).map Clause.fragment = cs.filterMap (fragment? column) := by
  rw [clauses_eq_filterMap, List.map_filterMap]
  rfl

/-- A group is its members' fragments with ` OR ` between them, in parentheses, if any of them
emits anything. -/
theorem fragment?_any (cs : List Condition) :
    (any cs).fragment? column =
      match cs.filterMap (fragment? column) with
      | [] => none
      | fs => some (.text "(" :: (Fragment.join " OR " fs ++ [.text ")"])) := by
  rw [← map_fragment_clauses, fragment?, clause?]
  cases clauses column cs with
  | nil => rfl
  | cons m ms => rw [Option.map_some, Clause.fragment_any]; rfl

/-- A filter is its conditions' fragments with ` AND ` between them, after ` WHERE `, if any of
them emits anything. -/
theorem filterFragment_eq (cs : List Condition) :
    filterFragment column cs =
      match cs.filterMap (fragment? column) with
      | [] => []
      | fs => .text " WHERE " :: Fragment.join " AND " fs := by
  have h := Clause.flatMap_joined Token.fragment_and
  rw [← map_fragment_clauses, filterFragment, whereFragment.eq_def]
  cases clauses column cs with
  | nil => rfl
  | cons m ms => rw [h]; rfl

end Condition

/-! ## The text of a filter -/

section Text

variable (d : Dialect) (mode : BindMode) (n : Nat)

theorem Comparer.sql_ne_empty (c : Comparer) : c.sql ≠ "" := by
  cases c <;> decide

/-- Every test has a text. -/
theorem Test.sql_ne_empty (t : Test) : t.fragment.sql d mode n ≠ "" := by
  cases t with
  | permit owner orNull column values =>
    cases owner <;> cases orNull <;> simp [fragment, ways, membership, Fragment.join, Fragment.sql]
  | compare column comparer value => simp [fragment, Fragment.sql, Comparer.sql_ne_empty]
  | _ => simp [fragment, membership, Fragment.sql]

theorem Clause.sql_ne_empty (c : Clause) : c.fragment.sql d mode n ≠ "" := by
  cases c with
  | test t =>
    rw [fragment_test]
    exact t.sql_ne_empty d mode n
  | any members =>
    rw [fragment_any]
    simp [Fragment.sql]

variable {column : String → String} {cs : List Condition}

/-- A filter without clauses has no text. -/
theorem Condition.sql_filterFragment_of_nil (h : clauses column cs = []) :
    (filterFragment column cs).sql d mode n = "" := by
  rw [filterFragment, h]
  rfl

/-- A filter with clauses has a text after ` WHERE `. -/
theorem Condition.sql_filterFragment_of_ne_nil (h : clauses column cs ≠ []) :
    ∃ body, body ≠ "" ∧ (filterFragment column cs).sql d mode n = " WHERE " ++ body := by
  rw [filterFragment]
  cases hc : clauses column cs with
  | nil => exact absurd hc h
  | cons m ms =>
    refine ⟨Fragment.sql d mode n ((Clause.joined .and (m :: ms)).flatMap Token.fragment), ?_, rfl⟩
    -- The text of the first clause comes first.
    have hfirst : Fragment.sql d mode n (m.tokens.flatMap Token.fragment) ≠ "" :=
      m.sql_ne_empty d mode n
    rw [Clause.joined, List.flatMap_append, Fragment.sql_append]
    simp [hfirst]

end Text

end FilterSql
