import FilterSql.Proofs.Fragment
import FilterSql.Proofs.Reading

/-!
# The formula of a filter

A condition emits SQL unless it is of an unknown kind or a group none of whose members emits any.
`pruneAll` drops what emits nothing, at every depth. A filter has the clauses of its pruned
conditions (`clause?_prune`), and these are the conditions one for one: the tokens of each clause
are read as the factor of its condition (`readsAs_clauses`), by induction over the conditions.

So the filter of conditions means what the conditions mean (`eval_factor`): its tokens are read as
all of the pruned conditions together, where a group is a group of its members.
-/

namespace FilterSql.Condition

mutual

/-- Whether a condition emits SQL. -/
def emits : Condition → Bool
  | unknown _ => false
  | any conditions => emitsAny conditions
  | _ => true

/-- Whether one of the conditions emits SQL. -/
def emitsAny : List Condition → Bool
  | [] => false
  | c :: cs => emits c || emitsAny cs

end

mutual

/-- A condition without members that emit nothing. -/
def prune : Condition → Condition
  | any conditions => .any (pruneAll conditions)
  | c => c

/-- Conditions without those that emit nothing, at every depth. -/
def pruneAll : List Condition → List Condition
  | [] => []
  | c :: cs => if emits c then prune c :: pruneAll cs else pruneAll cs

end

section Columns

variable (column : String → String)

mutual

/-- A condition as a factor: a group has an alternative for each member. -/
def factor : Condition → Factor
  | any conditions => .group (alternatives conditions)
  | c => match c.test? column with
    | some t => .test t
    | none => .group []

/-- Conditions as alternatives of one factor each. -/
def alternatives : List Condition → List (List Factor)
  | [] => []
  | c :: cs => [factor c] :: alternatives cs

end

variable (ρ : Test → Bool)

mutual

/-- Whether a row meets a condition, under an assignment to the tests: a group when it meets one of
its members. -/
def holds : Condition → Bool
  | any conditions => holdsAny conditions
  | c => (c.test? column).any ρ

/-- Whether a row meets one of the conditions. -/
def holdsAny : List Condition → Bool
  | [] => false
  | c :: cs => holds c || holdsAny cs

end

theorem alternatives_eq_map (cs : List Condition) :
    alternatives column cs = (cs.map (factor column)).map fun f => [f] := by
  induction cs with
  | nil => rfl
  | cons c cs ih => rw [alternatives, ih, List.map_cons, List.map_cons]

/-! ## Pruning -/

/-- A test emits SQL, and pruning leaves it as it is. -/
theorem emits_of_isTest {c : Condition} (h : c.isTest) : c.emits ∧ c.prune = c := by
  cases c with
  | any _ | unknown _ => exact absurd h Bool.false_ne_true
  | _ => exact ⟨rfl, rfl⟩

theorem factor_of_test? {c : Condition} {t : Test} (h : c.test? column = some t) :
    c.factor column = .test t := by
  cases c with
  | any _ | unknown _ => simp [test?] at h
  | _ =>
    obtain rfl := Option.some.inj h
    rfl

theorem holds_of_test? {c : Condition} {t : Test} (h : c.test? column = some t) :
    c.holds column ρ = ρ t := by
  cases c with
  | any _ | unknown _ => simp [test?] at h
  | _ =>
    obtain rfl := Option.some.inj h
    rfl

theorem isSome_test? {c : Condition} (h : c.isTest) : (c.test? column).isSome := by
  cases c with
  | any _ | unknown _ => exact absurd h Bool.false_ne_true
  | _ => rfl

/-- A condition has a clause exactly when it emits SQL. -/
theorem isSome_clause? :
    (∀ c : Condition, (c.clause? column).isSome = c.emits) ∧
      ∀ cs, (clauses column cs).isEmpty = !emitsAny cs := by
  apply induction_both
  case test =>
    intro c hc
    rw [clause?_of_isTest column hc, Option.isSome_map, isSome_test? column hc,
      (emits_of_isTest hc).1]
  case unknown => exact fun kind => rfl
  case any =>
    intro cs hclauses
    have hemits : emitsAny cs = !(clauses column cs).isEmpty := by rw [hclauses, Bool.not_not]
    rw [clause?, emits, hemits]
    cases clauses column cs <;> rfl
  case nil => rfl
  case cons =>
    intro c cs hc hcs
    rw [clauses, emitsAny, ← hc]
    cases c.clause? column with
    | none => exact hcs
    | some m => rfl

theorem clause?_of_not_emits {c : Condition} (h : c.emits = false) : c.clause? column = none := by
  have hclause := (isSome_clause? column).1 c
  rwa [h, Option.isSome_eq_false_iff, Option.isNone_iff_eq_none] at hclause

/-- Conditions have the clauses of what is left of them. -/
theorem clause?_prune :
    (∀ c : Condition, c.prune.clause? column = c.clause? column) ∧
      ∀ cs, clauses column (pruneAll cs) = clauses column cs := by
  apply induction_both
  case test =>
    intro c hc
    rw [(emits_of_isTest hc).2]
  case unknown => exact fun kind => rfl
  case any =>
    intro cs ih
    rw [prune, clause?, clause?, ih]
  case nil => rfl
  case cons =>
    intro c cs hc hcs
    rw [pruneAll, clauses]
    split
    · rw [clauses, hc, hcs]
    · rename_i hemits
      rw [hcs, clause?_of_not_emits column (Bool.eq_false_iff.mpr hemits)]
      rfl

/-- Nothing that is left is of an unknown kind. -/
theorem unknown?_prune :
    (∀ c : Condition, c.emits → c.prune.unknown? = none) ∧
      ∀ cs, firstUnknown? (pruneAll cs) = none := by
  apply induction_both
  case test =>
    intro c hc _
    rw [(emits_of_isTest hc).2]
    cases c with
    | unknown _ => exact absurd hc Bool.false_ne_true
    | any _ => exact absurd hc Bool.false_ne_true
    | _ => rfl
  case unknown => exact fun kind hemits => absurd hemits Bool.false_ne_true
  case any => exact fun cs ih _ => ih
  case nil => rfl
  case cons =>
    intro c cs hc hcs
    rw [pruneAll]
    split
    · rename_i hemits
      rw [firstUnknown?, hc hemits, hcs]
      rfl
    · exact hcs

/-! ## Reading -/

/-- The clauses of conditions are read as the factors of what is left of them. -/
theorem readsAs_clauses :
    (∀ (c : Condition) (m : Clause), c.clause? column = some m →
      m.ReadsAs (c.prune.factor column)) ∧
    ∀ cs, List.Forall₂ Clause.ReadsAs (clauses column cs) ((pruneAll cs).map (factor column)) := by
  apply induction_both
  case test =>
    intro c hc m hm
    rw [clause?_of_isTest column hc] at hm
    obtain ⟨t, ht, rfl⟩ := Option.map_eq_some_iff.mp hm
    rw [(emits_of_isTest hc).2, factor_of_test? column ht]
    exact Clause.readsAs_test t
  case unknown =>
    intro kind m hm
    simp [clause?, test?] at hm
  case any =>
    intro cs hmembers m hm
    rw [clause?] at hm
    rw [prune, factor, alternatives_eq_map]
    -- A group has a clause only if one of its members has.
    cases hc : clauses column cs with
    | nil => simp [hc] at hm
    | cons m' ms =>
      rw [hc] at hm hmembers
      obtain rfl := Option.some.inj hm
      exact Clause.readsAs_any hmembers
  case nil => exact .nil
  case cons =>
    intro c cs hc hcs
    have hemits := (isSome_clause? column).1 c
    rw [clauses, pruneAll, ← hemits]
    cases hm : c.clause? column with
    | none => exact hcs
    | some m => exact .cons (hc m hm) hcs

/-- There are no clauses exactly when nothing is left. -/
theorem clauses_eq_nil_iff (cs : List Condition) : clauses column cs = [] ↔ pruneAll cs = [] := by
  have hlength := ((readsAs_clauses column).2 cs).length_eq
  rw [List.length_map] at hlength
  rw [← List.length_eq_zero_iff, hlength, List.length_eq_zero_iff]

/-! ## Truth -/

/-- A condition holds when its factor does, and one of several when one of their factors does. -/
theorem eval_factor :
    (∀ c, (factor column c).eval ρ = holds column ρ c) ∧
      ∀ cs, Factor.evalAny ρ (alternatives column cs) = holdsAny column ρ cs := by
  apply induction_both
  case test =>
    intro c hc
    obtain ⟨t, ht⟩ := Option.isSome_iff_exists.mp (isSome_test? column hc)
    rw [factor_of_test? column ht, holds_of_test? column ρ ht, Factor.eval]
  case unknown => exact fun kind => rfl
  case any =>
    intro cs ih
    rw [factor, Factor.eval, holds, ih]
  case nil => rfl
  case cons =>
    intro c cs hc hcs
    rw [alternatives, Factor.evalAny, Factor.evalAll, Factor.evalAll, Bool.and_true, holdsAny, hc,
      hcs]

/-- Conditions hold together when their factors do. -/
theorem evalAny_factors (cs : List Condition) :
    Factor.evalAny ρ [cs.map (factor column)] = cs.all (holds column ρ) := by
  rw [Factor.evalAny, Factor.evalAny, Bool.or_false, Factor.evalAll_eq_all, List.all_map]
  exact List.all_congr rfl (eval_factor column ρ).1

end Columns

/-! ## Filters -/

/-- The filter of conditions is that of what is left of them. It is empty when nothing is left, and
otherwise its tokens, with every operator between operands, are read as all that is left together:
a group in parentheses for each group, with its members as alternatives. So it is true of a row when
all that is left is. The tokens are written as the parentheses and operators that they are read as,
and a test is written as it is. -/
theorem whereClause_formula (language : String) (strict : Bool) (cs : List Condition)
    (hstrict : strict = true → firstUnknown? cs = none) (s : Session) :
    (Token.opening.fragment = [.text "("] ∧ Token.closing.fragment = [.text ")"] ∧
      Token.and.fragment = [.text " AND "] ∧ Token.or.fragment = [.text " OR "] ∧
      ∀ t : Test, (Token.test t).fragment = t.fragment) ∧
    ∃ f : Fragment,
      (whereClause language strict cs).outcome s = .ok f ∧
      (whereClause language strict (pruneAll cs)).outcome s = .ok f ∧
      (∀ dialect mode n, f.sql dialect mode n = "" ↔ pruneAll cs = []) ∧
      (pruneAll cs ≠ [] →
        ∃ tokens, f = .text " WHERE " :: tokens.flatMap Token.fragment ∧
          Token.WellPlaced tokens ∧
          Token.read tokens = some [(pruneAll cs).map (factor (s.column language))] ∧
          ∀ ρ, Factor.evalAny ρ [(pruneAll cs).map (factor (s.column language))] =
            (pruneAll cs).all (holds (s.column language) ρ)) := by
  have hchecked : ∀ cs : List Condition, (strict = true → firstUnknown? cs = none) →
      (whereClause language strict cs).outcome s = .ok (filterFragment (s.column language) cs) := by
    intro cs hcs
    rw [outcome_whereClause]
    cases strict with
    | true => rw [hcs rfl]; rfl
    | false => cases firstUnknown? cs <;> rfl
  -- Under the columns of one session, both lists have one fragment.
  have hpruned : filterFragment (s.column language) (pruneAll cs) =
      filterFragment (s.column language) cs := by
    rw [filterFragment, filterFragment, (clause?_prune _).2]
  have hclauses := (readsAs_clauses (s.column language)).2 cs
  have hnil := clauses_eq_nil_iff (s.column language) cs
  refine ⟨⟨Token.fragment_opening, Token.fragment_closing, Token.fragment_and, Token.fragment_or,
    Token.fragment_test⟩, filterFragment (s.column language) cs, hchecked cs hstrict, ?_, ?_, ?_⟩
  · rw [← hpruned]
    exact hchecked _ fun _ => unknown?_prune.2 cs
  · intro dialect mode n
    rw [← hnil, filterFragment]
    cases clauses (s.column language) cs with
    | nil => simp [whereFragment, Fragment.sql]
    | cons m ms => simp [whereFragment, Fragment.sql]
  · intro hne
    cases hc : clauses (s.column language) cs with
    | nil => exact absurd (hnil.mp hc) hne
    | cons m ms =>
      rw [hc] at hclauses
      have hread := Clause.read_joined_and hclauses
      refine ⟨Clause.joined .and (m :: ms), ?_, Token.wellPlaced_of_read hread, hread, ?_⟩
      · rw [filterFragment, hc, whereFragment]
        simp
      · exact fun ρ => evalAny_factors (s.column language) ρ (pruneAll cs)

/-- Groups in a group, with members of an unknown kind at every depth. -/
private def sampleGroups : List Condition :=
  [.any [.unknown "near", .any [.unknown "far"]], .any [.raw "a", .unknown "near", .any [.raw "b"]],
    .raw "c"]

/-- Of three conditions the first emits nothing; the second is a group with a group in it. -/
theorem whereClause_formula_groups :
    ∃ f tokens, (whereClause "en" false sampleGroups).outcome {} = .ok f ∧
      f = .text " WHERE " :: tokens.flatMap Token.fragment ∧
      Token.read tokens =
        some [[.group [[.test (.raw "a")], [.group [[.test (.raw "b")]]]], .test (.raw "c")]] ∧
      ∀ dialect mode, f.sql dialect mode 0 = " WHERE ((a) OR ((b))) AND (c)" := by
  have hlenient : false = true → firstUnknown? sampleGroups = none := by simp
  obtain ⟨-, f, hf, -, -, hformula⟩ := whereClause_formula "en" false sampleGroups hlenient {}
  have hpruned : pruneAll sampleGroups = [.any [.raw "a", .any [.raw "b"]], .raw "c"] := rfl
  obtain ⟨tokens, htokens, -, hread, -⟩ := hformula (by simp [hpruned])
  refine ⟨f, tokens, hf, htokens, hread, fun dialect mode => ?_⟩
  obtain rfl : filterFragment (Session.column {} "en") sampleGroups = f := Except.ok.inj hf
  cases dialect <;> cases mode <;> rfl

end FilterSql.Condition
