import FilterSql.Compiler
import FilterSql.Proofs.Filter
import FilterSql.Proofs.Request

/-!
# Plans under given names

What a compilation gives is a function of its descriptor and of what the cache gives for the names
in it at the start (`outcome_compileAs`). `Names` holds what names stand for, `planUnder` is the
plan of a request under given names, and `compileUnder` is the whole compilation: the check of the
request, the refusal of an unknown kind, and the statement of the plan.
-/

namespace FilterSql

/-- The SQL of the names of a descriptor. -/
structure Names where
  column : String → String
  fieldList : List String → String
  sortList : List String → String

/-- The names as the cache of a session gives them. -/
def Session.names (s : Session) (language : String) : Names :=
  ⟨s.column language, s.fieldList language, s.sortList language⟩

/-- The names without a cache. -/
def Names.plain (language : String) : Names :=
  ⟨Column.resolve language, Column.fieldList language, Column.sortList language⟩

/-- A session without cached texts gives the names themselves. -/
theorem Session.names_of_entries_nil {s : Session} (h : s.cache.entries = [])
    (language : String) : s.names language = .plain language := by
  simp only [names, Names.plain, Names.mk.injEq]
  refine ⟨?_, ?_, ?_⟩ <;> funext <;> exact kept_of_entries_nil h ..

/-- Sessions with the same cache give the same names. -/
theorem Session.names_of_cache {s s' : Session} (h : s.cache = s'.cache) (language : String) :
    s.names language = s'.names language := by
  have hkept : s.kept = s'.kept := by
    unfold kept
    rw [h]
  unfold names column fieldList sortList
  rw [hkept]

namespace Names

/-- The columns of a select. -/
def selectList (names : Names) : List String → String
  | [] => "*"
  | fields => names.fieldList fields

/-- The operand of an aggregate function. -/
def operand (names : Names) : Option String → String
  | some key => names.column key
  | none => "1"

/-- The order of the rows, with a blank before it. -/
def order (names : Names) : List String → String
  | [] => ""
  | tokens => " ORDER BY " ++ names.sortList tokens

/-- Names with their SQL. -/
def listed (names : Names) (columns : List String) : List (String × String) :=
  columns.map fun name => (name, names.column name)

end Names

/-- The end of a statement that gives back columns, after `n` parameters. -/
def Dialect.returningAfter (d : Dialect) (n : Nat) : List String → String
  | [] => ""
  | columns =>
    let outs := if d.bindsReturned then columns.length else 0
    d.returning columns ((List.range' (n + 1) outs).map d.placeholder)

/-- The columns that a plan gives back come after its inputs. -/
theorem Plan.returningSql_eq (dialect : Dialect) (mode : BindMode) (p : Plan) :
    p.returningSql dialect mode =
      dialect.returningAfter (p.draft.inputs mode).length (p.returning.map (·.2)) := by
  have hnumbers : ∀ n k, (List.range k).map (fun i => dialect.placeholder (n + i + 1)) =
      (List.range' (n + 1) k).map dialect.placeholder := by
    intro n k
    rw [List.range'_eq_map_range, List.map_map]
    refine List.map_congr_left fun i _ => ?_
    rw [Function.comp_apply, Nat.add_right_comm]
  unfold returningSql outputs
  cases p.returning with
  | nil => rfl
  | cons c cs =>
    simp only [List.isEmpty_cons, Bool.false_eq_true, if_false, hnumbers]
    cases dialect <;> simp [Dialect.returningAfter, Dialect.bindsReturned]

/-- The input values of a statement are those of its draft. -/
theorem Plan.values_statement (dialect : Dialect) (mode : BindMode) (p : Plan) :
    (p.statement dialect mode).values = p.draft.inputs mode := by
  simp [statement, Statement.values, Param.value?, List.filterMap_append, List.filterMap_map,
    Function.comp_def]

/-- Without bounds a page is no text. -/
theorem Dialect.page_none (d : Dialect) : d.page none none = "" := by
  cases d <;> rfl

namespace Request

/-- Whether the statement of a request has the filter of its descriptor. -/
def isFiltered : Request → Bool
  | insert _ | drop | truncate => false
  | _ => true

/-- The request of an operation has the filter of its descriptor when the operation has. -/
theorem isFiltered_eq {d : Descriptor} {mode : BindMode} {exec : Exec} {r : Request}
    (h : d.request mode exec = .ok r) : r.isFiltered = exec.isFiltered := by
  have hr := Descriptor.request_eq_ok h
  cases exec with
  | scalar =>
    obtain ⟨spec, -, ⟨key, -, rfl⟩ | ⟨function, key, -, rfl⟩⟩ := Descriptor.scalarRequest_eq_ok hr
    · rfl
    · rfl
  | query =>
    obtain ⟨text, -, rfl⟩ := hr
    rfl
  | _ =>
    obtain rfl : r = _ := hr
    rfl

/-- The kind that a strict compiler refuses. -/
def unknown? (d : Descriptor) (r : Request) : Option String :=
  if r.isFiltered then Condition.firstUnknown? d.conditions else none

/-- The draft of a request under given names. -/
def draftUnder (names : Names) (d : Descriptor) (r : Request) : Draft :=
  let table := d.qualifiedTable
  let filter := Condition.filterFragment names.column d.conditions
  match r with
  | select fields =>
    .direct (.text ("SELECT " ++ names.selectList fields ++ " FROM " ++ table) :: filter)
  | count => .direct (.text ("SELECT COUNT(1) AS COUNT FROM " ++ table) :: filter)
  | insert assignments =>
    .direct
      (.text ("INSERT INTO " ++ table ++ " (" ++
          String.intercalate "," (assignments.map (·.column)) ++ ") VALUES (") ::
        (Fragment.join "," (assignments.map (·.value)) ++ [.text ")"]))
  | update assignments =>
    .direct
      (.text ("UPDATE " ++ table ++ " SET ") ::
        (Fragment.join "," (assignments.map Assignment.fragment) ++ filter))
  | remove => .direct (.text ("DELETE FROM " ++ table) :: filter)
  | drop => .direct [.text ("DROP TABLE " ++ table)]
  | truncate => .direct [.text ("TRUNCATE TABLE " ++ table)]
  | aggregate function key =>
    .direct
      (.text ("SELECT " ++ function.sql ++ "(" ++ names.operand key ++ ") AS VALUE FROM " ++
          table) :: filter)
  | group key sum =>
    let value := match sum with
      | some column => "SUM(" ++ names.column column ++ ")"
      | none => "COUNT(1)"
    .direct
      (.text ("SELECT " ++ names.column key ++ ", " ++ value ++ " AS VALUE FROM " ++ table) ::
        (filter ++ [.text (" GROUP BY " ++ names.column key)]))
  | template text => .template text d.params filter

variable {d : Descriptor} {strict : Bool} {P : ∀ {α : Type}, Compile α → Prop}

@[simp]
theorem outcome_selectList (language : String) (fields : List String) (s : Session) :
    (selectList language fields).outcome s =
      .ok ((s.names language).selectList fields) := by
  cases fields with
  | nil => rfl
  | cons f fs => exact Compile.outcome_fieldList ..

@[simp]
theorem outcome_operandSql (language : String) (key : Option String) (s : Session) :
    (operandSql language key).outcome s = .ok ((s.names language).operand key) := by
  cases key with
  | none => rfl
  | some key => exact Compile.outcome_column ..

theorem closed_selectList (h : Compile.Closed P) {language : String} {fields : List String}
    (hlist : ∀ f fs, fields = f :: fs → P (Compile.fieldList language (f :: fs))) :
    P (selectList language fields) := by
  cases fields with
  | nil => exact h.pure _
  | cons f fs => exact hlist f fs rfl

theorem closed_operandSql (h : Compile.Closed P)
    (hcolumn : ∀ language name, P (Compile.column language name)) (language : String)
    (key : Option String) : P (operandSql language key) := by
  cases key with
  | none => exact h.pure _
  | some key => exact hcolumn _ _

/-- Drafting a request gives its draft under the names of the session it starts in. -/
theorem outcome_draft (r : Request) (s : Session) :
    (r.draft d strict).outcome s =
      Condition.checked strict (r.unknown? d) (r.draftUnder (s.names d.languageCode) d) := by
  have hselect : ∀ fields, ((selectList d.languageCode fields).after s).column = s.column :=
    fun fields => closed_selectList Compile.closed_keeps
      (fun _ _ _ => Compile.keeps_column_fieldList _ _) s
  have hoperand : ∀ key, ((operandSql d.languageCode key).after s).column = s.column :=
    fun key => closed_operandSql Compile.closed_keeps Compile.keeps_column_column _ _ s
  have hcolumn : ∀ s name, ((Compile.column d.languageCode name).after s).column = s.column :=
    fun s name => Compile.keeps_column_column _ _ s
  unfold draft unknown? draftUnder
  cases r with
  | select fields => simp [hselect, isFiltered, Except.bind, Session.names]
  | count => simp [isFiltered, Session.names]
  | aggregate function key => simp [hoperand, isFiltered, Except.bind, Session.names]
  | group key sum =>
    cases sum with
    | none => simp [hcolumn, isFiltered, Except.bind, Session.names]
    | some column => simp [hcolumn, isFiltered, Except.bind, Session.names]
  | update assignments => simp [isFiltered, Session.names]
  | remove => simp [isFiltered, Session.names]
  | template text => simp [isFiltered, Session.names]
  | insert _ => rfl
  | drop => rfl
  | truncate => rfl

/-- Drafting has the properties that lookups of columns and of its select list and entries of the
log have. -/
theorem closed_draft (h : Compile.Closed P) {r : Request}
    (hcolumn : ∀ language name, P (Compile.column language name)) (hlog : ∀ e, P (Compile.log e))
    (hselect : ∀ fields, r = .select fields → P (selectList d.languageCode fields)) :
    P (r.draft d strict) := by
  have hfilter : P (Condition.whereClause d.languageCode strict d.conditions) :=
    h.map _ ((Condition.closed_resolve h hcolumn hlog).2 d.conditions)
  unfold draft
  cases r with
  | select fields =>
    refine h.bind (hselect fields rfl) fun columns => ?_
    exact h.bind hfilter fun filter => h.pure _
  | aggregate function key =>
    refine h.bind (closed_operandSql h hcolumn _ _) fun operand => ?_
    exact h.bind hfilter fun filter => h.pure _
  | group key sum =>
    refine h.bind (hcolumn _ _) fun key => ?_
    cases sum with
    | none =>
      refine h.bind (h.pure _) fun value => ?_
      exact h.bind hfilter fun filter => h.pure _
    | some column =>
      refine h.bind (hcolumn _ _) fun column => ?_
      refine h.bind (h.pure _) fun value => ?_
      exact h.bind hfilter fun filter => h.pure _
  | count | update _ | remove | template _ =>
    exact h.bind hfilter fun filter => h.pure _
  | insert _ | drop | truncate => exact h.pure _

end Request

namespace Descriptor

/-- The plan of a request under given names. -/
def planUnder (names : Names) (d : Descriptor) (exec : Exec) (r : Request) : Plan :=
  let page (n : Option Nat) : Option Nat := if exec.isPaged then n.filter (· > 0) else none
  { draft := r.draftUnder names d
    exec
    order := if exec.isPaged then names.order (d.sort.getD []) else ""
    take := page d.take
    skip := page d.skip
    returning := names.listed (d.returned exec) }

theorem planUnder_order (names : Names) (d : Descriptor) (exec : Exec) (r : Request) :
    (d.planUnder names exec r).order =
      if exec.isPaged then names.order (d.sort.getD []) else "" := rfl

/-- The text of a statement is that of its draft, with the order, the page and the columns that the
operation gives back after it. -/
theorem text_planUnder (names : Names) (d : Descriptor) (exec : Exec) (r : Request)
    (dialect : Dialect) (mode : BindMode) :
    ((d.planUnder names exec r).statement dialect mode).text =
      (r.draftUnder names d).text dialect mode ++
        (if exec.isPaged then names.order (d.sort.getD []) else "") ++
        dialect.page (if exec.isPaged then d.take.filter (· > 0) else none)
          (if exec.isPaged then d.skip.filter (· > 0) else none) ++
        dialect.returningAfter ((r.draftUnder names d).inputs mode).length
          ((d.returned exec).map names.column) := by
  simp [Plan.statement, Plan.body, Plan.returningSql_eq, planUnder, Names.listed,
    Function.comp_def]

@[simp]
theorem outcome_orderSql (d : Descriptor) (s : Session) :
    d.orderSql.outcome s = .ok ((s.names d.languageCode).order (d.sort.getD [])) := by
  unfold orderSql
  cases d.sort.getD [] with
  | nil => rfl
  | cons token tokens => simp [Names.order, Except.map, Session.names]

theorem closed_orderSql {P : ∀ {α : Type}, Compile α → Prop} (h : Compile.Closed P)
    {d : Descriptor}
    (hlist : ∀ t ts, d.sort.getD [] = t :: ts → P (Compile.sortList d.languageCode (t :: ts))) :
    P d.orderSql := by
  unfold orderSql
  cases hsort : d.sort.getD [] with
  | nil => exact h.pure _
  | cons t ts => exact h.bind (hlist t ts hsort) fun _ => h.pure _

theorem keeps_column_orderSql (d : Descriptor) : Compile.Keeps Session.column d.orderSql :=
  closed_orderSql Compile.closed_keeps fun _ _ _ => Compile.keeps_column_sortList _ _

@[simp]
theorem outcome_lookUp (language : String) (columns : List String) (s : Session) :
    (lookUp language columns).outcome s = .ok ((s.names language).listed columns) := by
  induction columns generalizing s with
  | nil => rfl
  | cons name columns ih =>
    have hkeep : ((Compile.column language name).after s).column = s.column :=
      Compile.keeps_column_column _ _ s
    simp [lookUp, ih, Names.listed, Session.names, hkeep, Except.bind, Except.map]

/-- Planning a request gives its plan under the names of the session it starts in. -/
theorem outcome_plan (d : Descriptor) (strict : Bool) (exec : Exec) (r : Request) (s : Session) :
    (d.plan strict exec r).outcome s =
      Condition.checked strict (r.unknown? d) (d.planUnder (s.names d.languageCode) exec r) := by
  have hcolumn : ((r.draft d strict).after s).column = s.column :=
    Request.closed_draft Compile.closed_keeps Compile.keeps_column_column
      (Compile.keeps_log fun _ _ => rfl)
      (fun _ _ => Request.closed_selectList Compile.closed_keeps
        fun _ _ _ => Compile.keeps_column_fieldList _ _) s
  have hsort : ((r.draft d strict).after s).sortList = s.sortList :=
    Request.closed_draft Compile.closed_keeps Compile.keeps_sortList_column
      (Compile.keeps_log fun _ _ => rfl)
      (fun _ _ => Request.closed_selectList Compile.closed_keeps
        fun _ _ _ => Compile.keeps_sortList_fieldList _ _) s
  have horder : ∀ s, (d.orderSql.after s).column = s.column := d.keeps_column_orderSql
  unfold plan planUnder
  rw [Compile.outcome_bind, Request.outcome_draft]
  -- The order and the columns that are given back show the select lists of neither session.
  cases exec.isPaged with
  | true =>
    simp only [Compile.outcome_bind, outcome_orderSql, outcome_lookUp, Session.names, hcolumn,
      hsort, horder, if_true]
    cases r.unknown? d <;> cases strict <;> rfl
  | false =>
    simp only [Compile.outcome_bind, Compile.outcome_pure, Compile.after_pure, outcome_lookUp,
      Session.names, hcolumn, Bool.false_eq_true, if_false]
    cases r.unknown? d <;> cases strict <;> rfl

section Closed

variable {P : ∀ {α : Type}, Compile α → Prop} {d : Descriptor} (h : Compile.Closed P)
  (hcolumn : ∀ language name, P (Compile.column language name)) (hlog : ∀ e, P (Compile.log e))

include h hcolumn

theorem closed_lookUp (language : String) (columns : List String) :
    P (lookUp language columns) := by
  induction columns with
  | nil => exact h.pure _
  | cons name columns ih =>
    refine h.bind (hcolumn _ _) fun sql => ?_
    exact h.bind ih fun _ => h.pure _

include hlog

/-- Planning has the properties that lookups of columns and of its own lists and entries of the log
have. -/
theorem closed_plan {strict : Bool} {exec : Exec} {r : Request}
    (hselect : ∀ fields, r = .select fields → P (Request.selectList d.languageCode fields))
    (horder : exec.isPaged → P d.orderSql) : P (d.plan strict exec r) := by
  have hlookUp : P (lookUp d.languageCode (d.returned exec)) := closed_lookUp h hcolumn _ _
  unfold plan
  refine h.bind (Request.closed_draft h hcolumn hlog hselect) fun draft => ?_
  cases hpaged : exec.isPaged with
  | true =>
    refine h.bind (horder hpaged) fun order => ?_
    exact h.bind hlookUp fun _ => h.pure _
  | false =>
    refine h.bind (h.pure "") fun order => ?_
    exact h.bind hlookUp fun _ => h.pure _

end Closed

end Descriptor

namespace Settings

/-- What compiling gives under given names. -/
def compileUnder (names : Names) (settings : Settings) (d : Descriptor) (exec : Exec) :
    Except Error Statement :=
  (d.request settings.mode exec).bind fun r =>
    (Condition.checked settings.strict (r.unknown? d) (d.planUnder names exec r)).map
      (Plan.statement settings.dialect settings.mode)

/-- Compiling gives what it gives under the names of the session that it starts in. -/
theorem outcome_compileAs (settings : Settings) (d : Descriptor) (exec : Exec) (s : Session) :
    (settings.compileAs d exec).outcome s =
      settings.compileUnder (s.names d.languageCode) d exec := by
  unfold compileAs compileUnder
  rw [Compile.outcome_bind, Compile.outcome_liftM]
  cases d.request settings.mode exec with
  | error e => rfl
  | ok r =>
    simp only [Compile.outcome_bind, Except.bind, Compile.after_liftM]
    rw [Descriptor.outcome_plan]
    cases r.unknown? d <;> cases settings.strict <;> rfl

/-- Compiling has the properties that lookups of columns and of the lists of the operation and
entries of the log have. -/
theorem closed_compileAs {P : ∀ {α : Type}, Compile α → Prop} (h : Compile.Closed P)
    {settings : Settings} {d : Descriptor} {exec : Exec}
    (hcolumn : ∀ language name, P (Compile.column language name)) (hlog : ∀ e, P (Compile.log e))
    (hselect : exec.hasSelectList →
      P (Request.selectList d.languageCode (d.fields.getD [])))
    (horder : exec.isPaged → P d.orderSql) : P (settings.compileAs d exec) := by
  unfold compileAs
  -- A request that is refused has looked nothing up.
  cases hr : d.request settings.mode exec with
  | error e => exact h.throw e
  | ok r =>
    have hlist : ∀ fields, r = .select fields →
        P (Request.selectList d.languageCode fields) := by
      rintro fields rfl
      obtain ⟨he, rfl⟩ := Descriptor.request_eq_select hr
      exact hselect he
    have hplan : P (d.plan settings.strict exec r) :=
      Descriptor.closed_plan h hcolumn hlog hlist horder
    show P (d.plan settings.strict exec r >>= _)
    exact h.bind hplan fun plan => h.bind (hlog _) fun _ => h.pure _

/-- What compiling gives depends on the names of columns and of the lists of the operation. -/
theorem compileUnder_congr {names names' : Names} {settings : Settings} {d : Descriptor}
    {exec : Exec} (hcolumn : names.column = names'.column)
    (hselect : exec.hasSelectList →
      names.selectList (d.fields.getD []) = names'.selectList (d.fields.getD []))
    (horder : exec.isPaged → names.order (d.sort.getD []) = names'.order (d.sort.getD [])) :
    settings.compileUnder names d exec = settings.compileUnder names' d exec := by
  unfold compileUnder
  cases hr : d.request settings.mode exec with
  | error e => rfl
  | ok r =>
    have hoperand : names.operand = names'.operand := by
      funext key
      cases key with
      | none => rfl
      | some key => exact congrFun hcolumn key
    have hdraft : r.draftUnder names d = r.draftUnder names' d := by
      cases r with
      | select fields =>
        obtain ⟨he, rfl⟩ := Descriptor.request_eq_select hr
        simp only [Request.draftUnder, hselect he, hcolumn]
      | _ => simp only [Request.draftUnder, hoperand, hcolumn]
    have hlisted : names.listed = names'.listed := by
      unfold Names.listed
      rw [hcolumn]
    have hplan : d.planUnder names exec r = d.planUnder names' exec r := by
      unfold Descriptor.planUnder
      rw [hdraft, hlisted]
      cases hpaged : exec.isPaged with
      | true => rw [horder hpaged]
      | false => rfl
    rw [Except.bind, Except.bind, hplan]

/-- The two statements of a list are compiled under the same names: what the first adds to the cache
does not matter to the second. -/
theorem outcome_compileList (settings : Settings) (d : Descriptor) (s : Session) :
    (settings.compileList d).outcome s =
      (settings.compileUnder (s.names d.languageCode) d .list).bind fun data =>
        (settings.compileUnder (s.names d.languageCode) d .count).map fun count =>
          (data, count) := by
  have hcolumn : ((settings.compileAs d .list).after s).column = s.column :=
    closed_compileAs Compile.closed_keeps Compile.keeps_column_column
      (Compile.keeps_log fun _ _ => rfl)
      (fun _ => Request.closed_selectList Compile.closed_keeps
        fun _ _ _ => Compile.keeps_column_fieldList _ _)
      (fun _ => d.keeps_column_orderSql) s
  have hcount : settings.compileUnder
      (((settings.compileAs d .list).after s).names d.languageCode) d .count =
        settings.compileUnder (s.names d.languageCode) d .count := by
    refine compileUnder_congr (congrFun hcolumn _) ?_ ?_
    · exact fun he => absurd he Bool.false_ne_true
    · exact fun he => absurd he Bool.false_ne_true
  unfold compileList
  simp only [Compile.outcome_bind, outcome_compileAs, hcount]
  rfl

/-- What compiling fails with is an error of compiling. -/
theorem isCompile_of_compileUnder {names : Names} {settings : Settings} {d : Descriptor}
    {exec : Exec} {e : Error} (h : settings.compileUnder names d exec = .error e) :
    e.isCompile := by
  unfold compileUnder at h
  cases hr : d.request settings.mode exec with
  | error e' =>
    obtain rfl : e' = e := by simpa [hr, Except.bind] using h
    exact Descriptor.isCompile_of_request hr
  | ok r =>
    rw [hr, Except.bind, Condition.checked_map] at h
    obtain ⟨kind, rfl⟩ := Condition.eq_of_checked_eq_error h
    rfl

/-- A statement is that of a plan for a request that the descriptor has. -/
theorem compileUnder_eq_ok {names : Names} {settings : Settings} {d : Descriptor} {exec : Exec}
    {st : Statement} (h : settings.compileUnder names d exec = .ok st) :
    ∃ r, d.request settings.mode exec = .ok r ∧
      st = (d.planUnder names exec r).statement settings.dialect settings.mode := by
  unfold compileUnder at h
  cases hr : d.request settings.mode exec with
  | error e => simp [hr, Except.bind] at h
  | ok r =>
    rw [hr, Except.bind, Condition.checked_map] at h
    exact ⟨r, rfl, Condition.eq_of_checked_eq_ok h⟩

/-- What a strict compiler accepts has no unknown kind in it. -/
theorem unknown?_of_strict {names : Names} {settings : Settings} {d : Descriptor} {exec : Exec}
    {st : Statement} {r : Request} (hstrict : settings.strict)
    (hr : d.request settings.mode exec = .ok r)
    (h : settings.compileUnder names d exec = .ok st) : r.unknown? d = none := by
  unfold compileUnder at h
  rw [hr, Except.bind, hstrict, Condition.checked_map] at h
  cases hunknown : r.unknown? d with
  | none => rfl
  | some kind => simp [hunknown, Condition.checked] at h

end Settings

end FilterSql
