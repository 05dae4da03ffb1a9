import FilterSql.Proofs.Lookup

/-!
# Filters under given columns

Resolving the conditions of a filter threads the cache through them. `clauses` is the same without
a cache: every name stands for the column that a function gives. `outcome_resolve` says that
resolving gives these clauses, with the columns that the cache gives at the start, or refuses the
first condition of an unknown kind, depth first and from left to right.
-/

namespace FilterSql

namespace Condition

/-- Whether a condition is a single test: neither a group nor of an unknown kind. -/
def isTest : Condition → Bool
  | any _ | unknown _ => false
  | _ => true

/-- To show a property of every condition it is enough to show it of tests, of unknown kinds, and
of a group whose members have it. -/
theorem induction {motive : Condition → Prop} (test : ∀ c, c.isTest → motive c)
    (unknown : ∀ kind, motive (.unknown kind))
    (any : ∀ cs, (∀ c ∈ cs, motive c) → motive (.any cs)) : ∀ c, motive c
  | .any cs => any cs fun c _ => induction test unknown any c
  | .unknown kind => unknown kind
  | .compare .. => test _ rfl
  | .among .. => test _ rfl
  | .notAmong .. => test _ rfl
  | .between .. => test _ rfl
  | .search .. => test _ rfl
  | .blank .. => test _ rfl
  | .filled .. => test _ rfl
  | .datePart .. => test _ rfl
  | .permit .. => test _ rfl
  | .raw .. => test _ rfl

/-- The same together with a property of lists of conditions, which a group takes over from the list
of its members. -/
theorem induction_both {one : Condition → Prop} {all : List Condition → Prop}
    (test : ∀ c, c.isTest → one c) (unknown : ∀ kind, one (.unknown kind))
    (any : ∀ cs, all cs → one (.any cs)) (nil : all [])
    (cons : ∀ c cs, one c → all cs → all (c :: cs)) : (∀ c, one c) ∧ ∀ cs, all cs := by
  have hall : ∀ cs, (∀ c ∈ cs, one c) → all cs := by
    intro cs h
    induction cs with
    | nil => exact nil
    | cons c cs ih => exact cons c cs (h c (by simp)) (ih fun c hc => h c (by simp [hc]))
  have hone : ∀ c, one c := induction test unknown fun cs h => any cs (hall cs h)
  exact ⟨hone, fun cs => hall cs fun c _ => hone c⟩

mutual

/-- The kind of the first condition of an unknown kind. -/
def unknown? : Condition → Option String
  | unknown kind => some kind
  | any conditions => firstUnknown? conditions
  | _ => none

/-- The kind of the first condition of an unknown kind, depth first and from left to right. -/
def firstUnknown? : List Condition → Option String
  | [] => none
  | c :: cs => (unknown? c).or (firstUnknown? cs)

end

section Columns

variable (column : String → String)

/-- The test of a condition that is one. -/
def test? : Condition → Option Test
  | compare name comparer value => some (comparisonTest (column name) comparer value)
  | among name values => some (.among (column name) values)
  | notAmong name values => some (.notAmong (column name) values)
  | between name low high => some (.between (column name) low high)
  | search name term anchor => some (.like (column name) (anchor.pattern term))
  | blank name => some (.blank (column name))
  | filled name => some (.filled (column name))
  | datePart part name comparer value =>
    some (.datePart part (column name) comparer value)
  | permit name values required owner =>
    some (.permit ((owner.filter (!·.isNull)).map fun v => (column ownerColumn, v)) required
      (column name) values)
  | raw sql => some (.raw sql)
  | any _ | unknown _ => none

mutual

/-- The clause of a condition, if it emits anything. -/
def clause? : Condition → Option Clause
  | any conditions =>
    match clauses conditions with
    | [] => none
    | members => some (.any members)
  | c => (c.test? column).map .test

/-- The clauses of the conditions that emit anything. -/
def clauses : List Condition → List Clause
  | [] => []
  | c :: cs => (clause? c).toList ++ clauses cs

end

end Columns

/-- `a`, unless the compiler is strict and there is a condition of an unknown kind. -/
def checked {α : Type} (strict : Bool) (unknown : Option String) (a : α) : Except Error α :=
  match unknown with
  | some kind => if strict then .error (.unknownCondition kind) else .ok a
  | none => .ok a

theorem checked_bind {α β : Type} (strict : Bool) (u v : Option String) (a : α) (f : α → β) :
    ((checked strict u a).bind fun a => checked strict v (f a)) =
      checked strict (u.or v) (f a) := by
  cases u <;> cases strict <;> cases v <;> rfl

@[simp]
theorem checked_map {α β : Type} (strict : Bool) (u : Option String) (a : α) (f : α → β) :
    (checked strict u a).map f = checked strict u (f a) := by
  cases u <;> cases strict <;> rfl

theorem eq_of_checked_eq_ok {α : Type} {strict : Bool} {u : Option String} {a b : α}
    (h : checked strict u a = .ok b) : b = a := by
  unfold checked at h
  split at h
  · split at h
    · simp at h
    · exact (Except.ok.inj h).symm
  · exact (Except.ok.inj h).symm

theorem eq_of_checked_eq_error {α : Type} {strict : Bool} {u : Option String} {a : α} {e : Error}
    (h : checked strict u a = .error e) : ∃ kind, e = .unknownCondition kind := by
  unfold checked at h
  split at h
  · split at h
    · exact ⟨_, (Except.error.inj h).symm⟩
    · simp at h
  · simp at h

variable {language : String} {strict : Bool}

/-- Resolving conditions has the properties that lookups of columns and entries of the log have. -/
theorem closed_resolve {P : ∀ {α : Type}, Compile α → Prop} (h : Compile.Closed P)
    (hcolumn : ∀ language name, P (Compile.column language name))
    (hlog : ∀ e, P (Compile.log e)) :
    (∀ c, P (resolve language strict c)) ∧ ∀ cs, P (resolveAll language strict cs) := by
  apply induction_both
  case test =>
    intro c hc
    cases c <;> simp only [isTest, Bool.false_eq_true] at hc <;> rw [resolve]
    case permit name values required owner =>
      refine h.bind (hcolumn _ _) fun column => ?_
      cases owner.filter (!·.isNull) with
      | none => exact h.bind (h.pure none) fun owner => h.pure _
      | some v =>
        refine h.bind (hcolumn _ _) fun sql => ?_
        exact h.bind (h.pure _) fun owner => h.pure _
    case raw sql => exact h.pure _
    all_goals exact h.bind (hcolumn _ _) fun column => h.pure _
  case unknown =>
    intro kind
    rw [resolve]
    cases strict with
    | true => exact h.throw _
    | false => exact h.bind (hlog _) fun _ => h.pure none
  case any =>
    intro cs ih
    rw [resolve]
    refine h.bind ih fun members => ?_
    cases members <;> exact h.pure _
  case nil => exact h.pure []
  case cons =>
    intro c cs hc hcs
    rw [resolveAll]
    refine h.bind hc fun clause => ?_
    exact h.bind hcs fun clauses => h.pure _

/-- Conditions after the first see the columns that the first saw. -/
theorem keeps_column_resolve (c : Condition) :
    Compile.Keeps Session.column (resolve language strict c) :=
  (closed_resolve Compile.closed_keeps Compile.keeps_column_column
    (Compile.keeps_log fun _ _ => rfl)).1 c

/-- Resolving conditions gives their clauses, under the columns that the cache gives at the start,
unless one of an unknown kind is refused. -/
theorem outcome_resolve :
    (∀ c s, (resolve language strict c).outcome s =
      checked strict c.unknown? (c.clause? (s.column language))) ∧
    ∀ cs s, (resolveAll language strict cs).outcome s =
      checked strict (firstUnknown? cs) (clauses (s.column language) cs) := by
  apply induction_both
  case test =>
    intro c hc s
    cases c <;> simp only [isTest, Bool.false_eq_true] at hc <;> rw [resolve]
    case permit name values required owner =>
      -- The owner's column is looked up after that of the list.
      have hkeep := Compile.keeps_column_column language name s
      cases h : owner.filter (!·.isNull) with
      | none => simp [Except.map, unknown?, clause?, test?, checked, h]
      | some v => simp [Except.bind, Except.map, unknown?, clause?, test?, checked, h, hkeep]
    case raw sql => rfl
    all_goals simp [Except.map, unknown?, clause?, test?, checked]
  case unknown =>
    intro kind s
    rw [resolve]
    cases strict <;> rfl
  case any =>
    intro cs ih s
    rw [resolve, Compile.outcome_bind, ih, unknown?, clause?]
    cases clauses (s.column language) cs <;> cases firstUnknown? cs <;> cases strict <;> rfl
  case nil => exact fun s => rfl
  case cons =>
    intro c cs hc hcs s
    have hkeep : ((resolve language strict c).after s).column = s.column :=
      keeps_column_resolve c s
    rw [resolveAll, Compile.outcome_bind, hc s]
    simp only [Compile.outcome_bind, hcs, hkeep, Compile.outcome_pure, firstUnknown?, clauses]
    rw [← checked_bind]
    cases c.unknown? <;> cases strict <;> cases firstUnknown? cs <;> rfl

/-- The fragment of a filter under given columns. -/
def filterFragment (column : String → String) (cs : List Condition) : Fragment :=
  whereFragment (clauses column cs)

/-- A filter gives its fragment, under the columns that the cache gives at the start, unless a
condition of an unknown kind is refused. -/
@[simp]
theorem outcome_whereClause (cs : List Condition) (s : Session) :
    (whereClause language strict cs).outcome s =
      checked strict (firstUnknown? cs) (filterFragment (s.column language) cs) := by
  rw [whereClause, Compile.outcome_map, outcome_resolve.2, checked_map, filterFragment]

end Condition

end FilterSql
