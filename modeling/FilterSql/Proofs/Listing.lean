import FilterSql.Proofs.Fragment
import FilterSql.Proofs.Plan

/-!
# The two statements of a list

A list is compiled to a statement for its rows and one for their number. Both are compiled under
the names that the cache gives at the start, so that they have one filter: the list fails when the
count does, with the same error, and otherwise its count is the one that is compiled alone
(`outcome_compileList_eq_map`), as its rows are those that are compiled alone
(`outcome_compileAs_list`). The texts of the two plans (`text_listPlan`, `text_countPlan`) then show
the same table and clause. Around these stand the columns, the order and the page of the rows, which
do not depend on the filter.
-/

namespace FilterSql

/-- A descriptor with another filter. -/
def Descriptor.withFilter (d : Descriptor) (conditions : List Condition) : Descriptor :=
  { d with conditions }

namespace Descriptor

variable (names : Names) (d : Descriptor) (dialect : Dialect) (mode : BindMode)

/-- The plan of the rows of a list. -/
def listPlan : Plan :=
  d.planUnder names .list (.select (d.fields.getD []))

/-- The plan of a count. -/
def countPlan : Plan :=
  d.planUnder names .count .count

/-- What follows the filter of a list: its order and its page. -/
def orderAndPage : String :=
  names.order (d.sort.getD []) ++
    dialect.page (d.take.filter (· > 0)) (d.skip.filter (· > 0))

theorem text_listPlan :
    ((d.listPlan names).statement dialect mode).text =
      "SELECT " ++ names.selectList (d.fields.getD []) ++ " FROM " ++ d.qualifiedTable ++
        (Condition.filterFragment names.column d.conditions).sql dialect mode 0 ++
          d.orderAndPage names dialect := by
  simp [listPlan, orderAndPage, Plan.statement, Plan.returningSql_eq, Plan.body, planUnder,
    Request.draftUnder, Draft.text, Fragment.sql, Exec.isPaged, returned, Names.listed,
    Dialect.returningAfter, String.append_assoc]

theorem text_countPlan :
    ((d.countPlan names).statement dialect mode).text =
      "SELECT COUNT(1) AS COUNT FROM " ++ d.qualifiedTable ++
        (Condition.filterFragment names.column d.conditions).sql dialect mode 0 := by
  simp [countPlan, Plan.statement, Plan.returningSql_eq, Plan.body, planUnder,
    Request.draftUnder, Draft.text, Fragment.sql, Exec.isPaged, returned, Names.listed,
    Dialect.returningAfter, Dialect.page_none]

/-- The rows and the count bind the values of the filter and nothing else. -/
theorem params_listPlan :
    ((d.listPlan names).statement dialect mode).params =
      ((d.countPlan names).statement dialect mode).params := by
  cases dialect <;> rfl

/-- A descriptor has a request for a count when it has one for a list. -/
theorem request_count (mode : BindMode) :
    d.request mode .count = (d.request mode .list).map fun _ => .count := by
  unfold request
  cases Text.isBlankText d.table <;> rfl

end Descriptor

namespace Settings

/-- A list fails when its count does, and otherwise has the count that is compiled alone. -/
theorem outcome_compileList_eq_map (settings : Settings) (d : Descriptor) (s : Session) :
    (settings.compileList d).outcome s =
      ((settings.compileAs d .count).outcome s).map fun count =>
        ((d.listPlan (s.names d.languageCode)).statement settings.dialect settings.mode,
          count) := by
  rw [outcome_compileList, outcome_compileAs]
  unfold compileUnder
  rw [Descriptor.request_count]
  cases hr : d.request settings.mode .list with
  | error e => rfl
  | ok r =>
    obtain rfl : r = .select (d.fields.getD []) := Descriptor.request_eq_ok hr
    -- Both are refused for the same unknown kind.
    have hunknown : Request.unknown? d (.select (d.fields.getD [])) = Request.unknown? d .count :=
      rfl
    simp only [Except.map, Except.bind, hunknown]
    cases Request.unknown? d .count <;> cases settings.strict <;> rfl

/-- The statement of a count is that of its plan. -/
theorem eq_of_outcome_count {settings : Settings} {d : Descriptor} {s : Session}
    {count : Statement} (h : (settings.compileAs d .count).outcome s = .ok count) :
    count = (d.countPlan (s.names d.languageCode)).statement settings.dialect settings.mode := by
  rw [outcome_compileAs] at h
  obtain ⟨r, hr, rfl⟩ := compileUnder_eq_ok h
  obtain rfl : r = .count := Descriptor.request_eq_ok hr
  rfl

/-- The statement for the rows of a list is the one that is compiled alone. -/
theorem outcome_compileAs_list {settings : Settings} {d : Descriptor} {s : Session}
    {data count : Statement} (h : (settings.compileList d).outcome s = .ok (data, count)) :
    (settings.compileAs d .list).outcome s = .ok data := by
  rw [outcome_compileList] at h
  rw [outcome_compileAs]
  cases hdata : settings.compileUnder (s.names d.languageCode) d .list with
  | error e => simp [hdata, Except.bind] at h
  | ok data' =>
    rw [hdata, Except.bind] at h
    cases hcount : settings.compileUnder (s.names d.languageCode) d .count with
    | error e => simp [hcount, Except.map] at h
    | ok count' =>
      obtain ⟨rfl, -⟩ : data' = data ∧ count' = count := by simpa [hcount, Except.map] using h
      rfl

/-- A list compiles when its count does, to that count, and to the rows that are compiled alone. Its
two statements have the same parameters, the same table and the same clause, which is empty or
starts with ` WHERE `. What else there is in the statement for the rows is its columns, its order
and its page: given what is cached, these are the same for every filter. -/
theorem compileList_same_clause (settings : Settings) (d : Descriptor) (cache : Cache) :
    let names := ({ cache } : Session).names d.languageCode
    let columns := names.selectList (d.fields.getD [])
    let orderAndPage := names.order (d.sort.getD []) ++
      settings.dialect.page (d.take.filter (· > 0)) (d.skip.filter (· > 0))
    ∀ (filter : List Condition) (s : Session), s.cache = cache →
      (∀ count, (settings.compileAs (d.withFilter filter) .count).outcome s = .ok count ↔
        ∃ data, (settings.compileList (d.withFilter filter)).outcome s = .ok (data, count)) ∧
      ∀ data count, (settings.compileList (d.withFilter filter)).outcome s = .ok (data, count) →
        (settings.compileAs (d.withFilter filter) .list).outcome s = .ok data ∧
        data.params = count.params ∧
        ∃ clause : String, (clause = "" ∨ ∃ body, clause = " WHERE " ++ body) ∧
          count.text = "SELECT COUNT(1) AS COUNT FROM " ++ d.qualifiedTable ++ clause ∧
          data.text = "SELECT " ++ columns ++ " FROM " ++ d.qualifiedTable ++ clause ++
            orderAndPage := by
  -- A filter has no part in the names, so that those of the cache serve every filter.
  intro names columns orderAndPage filter s hs
  have hnames : s.names (d.withFilter filter).languageCode = names := Session.names_of_cache hs _
  have hlist := settings.outcome_compileList_eq_map (d.withFilter filter) s
  have hcount : ∀ count, (settings.compileAs (d.withFilter filter) .count).outcome s = .ok count →
      count = ((d.withFilter filter).countPlan names).statement settings.dialect settings.mode := by
    intro count h
    rw [← hnames]
    exact eq_of_outcome_count h
  rw [hnames] at hlist
  constructor
  · intro count
    rw [hlist]
    cases (settings.compileAs (d.withFilter filter) .count).outcome s <;> simp [Except.map]
  · intro data count h
    refine ⟨outcome_compileAs_list h, ?_⟩
    rw [hlist] at h
    cases hc : (settings.compileAs (d.withFilter filter) .count).outcome s with
    | error e => simp [hc, Except.map] at h
    | ok count' =>
      obtain ⟨rfl, rfl⟩ : _ = data ∧ count' = count := by simpa [hc, Except.map] using h
      obtain rfl := hcount count' hc
      refine ⟨(d.withFilter filter).params_listPlan names _ _,
        (Condition.filterFragment names.column filter).sql settings.dialect settings.mode 0, ?_,
        (d.withFilter filter).text_countPlan names _ _,
        (d.withFilter filter).text_listPlan names _ _⟩
      by_cases hclauses : Condition.clauses names.column filter = []
      · exact .inl (Condition.sql_filterFragment_of_nil _ _ _ hclauses)
      · obtain ⟨body, -, hbody⟩ :=
          Condition.sql_filterFragment_of_ne_nil settings.dialect settings.mode 0 hclauses
        exact .inr ⟨body, hbody⟩

/-- A page of rows in an order, with a filter by a value. -/
private def samplePage : Descriptor where
  table := "t"
  exec := .list
  fields := some ["a"]
  sort := some ["b_desc"]
  take := some 5
  conditions := [.compare "c" .gt (.int 1)]

/-- The page and its count bind one value, in the clause of the count. -/
theorem compileList_same_clause_page :
    ∃ data count,
      (compileList {} samplePage).outcome {} = .ok (data, count) ∧
      (compileAs {} samplePage .count).outcome {} = .ok count ∧
      (compileAs {} samplePage .list).outcome {} = .ok data ∧
      data.params = [.input (.int 1)] ∧ count.params = [.input (.int 1)] ∧
      count.text = "SELECT COUNT(1) AS COUNT FROM t WHERE \"c\">:1" ∧
      data.text =
        "SELECT \"a\" FROM t WHERE \"c\">:1 ORDER BY \"b\" DESC FETCH FIRST 5 ROWS ONLY" := by
  obtain ⟨hcount, hclause⟩ := compileList_same_clause {} samplePage {} samplePage.conditions {} rfl
  obtain ⟨count, hcompiled, hparams, htext⟩ : ∃ count,
      (compileAs {} samplePage .count).outcome {} = .ok count ∧
        count.params = [.input (.int 1)] ∧
        count.text = "SELECT COUNT(1) AS COUNT FROM " ++ "t" ++ " WHERE \"c\">:1" := by
    rw [outcome_compileAs]
    exact ⟨_, rfl, rfl, by decide +kernel⟩
  obtain ⟨data, hdata⟩ := (hcount count).mp hcompiled
  obtain ⟨hlist, hsame, clause, -, hcountText, hdataText⟩ := hclause data count hdata
  -- The clause of the count is known, and with it the text of the page.
  obtain rfl : clause = " WHERE \"c\">:1" := by
    rw [htext] at hcountText
    exact (String.append_right_inj _).mp hcountText.symm
  refine ⟨data, count, hdata, hcompiled, hlist, hsame.trans hparams, hparams, htext, ?_⟩
  rw [hdataText]
  decide +kernel

end Settings

end FilterSql
