import FilterSql.Postgres.Executor
import FilterSql.Proofs.Plan

/-!
# Fetched rows and counted rows

A connection gives the rows of a statement or the number of rows that the statement affected, and
the statement decides which of them it is asked for (`Statement.fetches`). The output of an
operation is made of the one or of the other too, and there the operation decides
(`Descriptor.readsRows`). For all operations but one both are decided by the columns that the
operation gives back, and so alike. The output of a raw query is made of rows whatever its text is,
but its rows are fetched only where the text counts as one that reads
(`Settings.fetches_of_compileAs`).

So nothing of what a connection answers is lost, except in a raw query with the word of a write in
its text, and a gap after it (`Settings.run_compileAs`). The word may stand in a literal: then the
rows of a select are lost.
-/

namespace FilterSql

/-! ## What an output is made of -/

/-- Whether an output is made of the rows of a result, and not of the number of affected rows. -/
def Output.isOfRows : Output → Bool
  | affected _ => false
  | _ => true

namespace Descriptor

variable {d : Descriptor} {exec : Exec}

/-- Whether the output of an operation is made of the rows of its result. -/
def readsRows (d : Descriptor) : Exec → Bool
  | .drop | .truncate => false
  | .insert | .update | .remove => !d.returningColumns.isEmpty
  | _ => true

/-- An insert gives columns back where some are listed or there is a primary key. -/
theorem returningColumns_eq (d : Descriptor) :
    d.returningColumns =
      match d.returning.getD [], d.primaryKey.filter (!·.isEmpty) with
      | c :: cs, _ => c :: cs
      | [], some key => [key]
      | [], none => [] := by
  unfold returningColumns
  cases d.primaryKey with
  | none => rcases d.returning with _ | _ | _ <;> rfl
  | some key =>
    cases hkey : key.isEmpty <;> rcases d.returning with _ | _ | _ <;>
      simp [Option.filter, hkey]

/-- The output of an insert is a row or the value of the key where columns are given back, and
otherwise the number of affected rows. -/
theorem ofResult_insert (d : Descriptor) :
    (d.returningColumns ≠ [] ∧ ∀ r, Output.ofResult d .insert r = .row r.rows.head?) ∨
    (d.returningColumns ≠ [] ∧
      ∃ key, ∀ r, Output.ofResult d .insert r = .value (r.firstField? key)) ∨
    (d.returningColumns = [] ∧ ∀ r, Output.ofResult d .insert r = .affected r.affected) := by
  rw [returningColumns_eq]
  simp only [Output.ofResult]
  cases d.returning.getD [] with
  | cons c cs => exact .inl ⟨List.cons_ne_nil _ _, fun r => rfl⟩
  | nil =>
    cases d.primaryKey.filter (!·.isEmpty) with
    | some key => exact .inr (.inl ⟨List.cons_ne_nil _ _, key, fun r => rfl⟩)
    | none => exact .inr (.inr ⟨rfl, fun r => rfl⟩)

/-- An operation that does not read rows has the number of affected rows as its output. -/
theorem ofResult_of_not_readsRows (h : d.readsRows exec = false) (r : Result) :
    Output.ofResult d exec r = .affected r.affected := by
  cases exec with
  | insert =>
    have hnone : d.returningColumns = [] := by simpa [readsRows] using h
    obtain ⟨hsome, -⟩ | ⟨hsome, -⟩ | ⟨-, hnumber⟩ := d.ofResult_insert
    · exact absurd hnone hsome
    · exact absurd hnone hsome
    · exact hnumber r
  | update | remove => simp_all [readsRows, Output.ofResult]
  | drop | truncate => rfl
  | _ => simp [readsRows] at h

/-- An operation that reads rows has an output of rows, and it is the same for any number of
affected rows. -/
theorem ofResult_of_readsRows (h : d.readsRows exec) (r : Result) :
    (Output.ofResult d exec r).isOfRows ∧
      ∀ n, Output.ofResult d exec { r with affected := n } = Output.ofResult d exec r := by
  cases exec with
  | insert =>
    have hsome : d.returningColumns ≠ [] := by simpa [readsRows] using h
    obtain ⟨-, hrow⟩ | ⟨-, key, hvalue⟩ | ⟨hnone, -⟩ := d.ofResult_insert
    · exact ⟨by rw [hrow]; rfl, fun n => by rw [hrow, hrow]⟩
    · exact ⟨by rw [hvalue]; rfl, fun n => by rw [hvalue, hvalue]; rfl⟩
    · exact absurd hnone hsome
  | update | remove =>
    simp only [readsRows, Bool.not_eq_true'] at h
    cases hfirst : d.first <;> simp [Output.ofResult, h, Output.returned, hfirst, Output.isOfRows]
  | scalar =>
    simp only [Output.ofResult]
    refine ⟨?_, fun n => rfl⟩
    split <;> rfl
  | drop | truncate => exact absurd h Bool.false_ne_true
  | _ => exact ⟨rfl, fun n => rfl⟩

theorem isOfRows_ofResult (d : Descriptor) (exec : Exec) (r : Result) :
    (Output.ofResult d exec r).isOfRows = d.readsRows exec := by
  cases h : d.readsRows exec with
  | true => exact (ofResult_of_readsRows h r).1
  | false => rw [ofResult_of_not_readsRows h, Output.isOfRows]

end Descriptor

/-! ## What a connection is asked for -/

namespace PgConnection

/-- The rows that a connection gives for a statement. -/
def fetched (c : PgConnection) (st : Statement) : Except Error (List Row) :=
  match c.fetch st.text (st.values.map Argument.ofValue) with
  | .ok rows => .ok (rows.map Row.ofCells)
  | .error e => .error e.toError

/-- The number of rows that a statement affects on a connection. -/
def counted (c : PgConnection) (st : Statement) : Except Error Nat :=
  match c.execute st.text (st.values.map Argument.ofValue) with
  | .ok n => .ok n
  | .error e => .error e.toError

/-- A statement without output parameters is run for its rows or for a number. -/
theorem run_eq (c : PgConnection) {st : Statement} (h : ∀ p ∈ st.params, p.value?.isSome) :
    c.run st =
      if st.fetches then (c.fetched st).map .ofRows
      else (c.counted st).map fun n => { affected := n } := by
  have hinputs : (st.params.any fun p => p.value?.isNone) = false := by
    simpa [Option.isSome_iff_ne_none] using h
  unfold run fetched counted
  simp only [hinputs, Bool.false_eq_true, if_false]
  cases c.fetch st.text (st.values.map Argument.ofValue) <;>
    cases c.execute st.text (st.values.map Argument.ofValue) <;> rfl

end PgConnection

namespace Settings

variable {settings : Settings} {d : Descriptor} {exec : Exec} {s : Session} {st : Statement}

/-- A raw query is fetched where its text reads, and any other statement where its operation reads
rows. -/
theorem fetches_of_compileAs (h : (settings.compileAs d exec).outcome s = .ok st) :
    st.exec = exec ∧
      st.fetches = if exec = .query then !WriteScan.isWrite st.text else d.readsRows exec := by
  rw [outcome_compileAs] at h
  obtain ⟨r, -, rfl⟩ := compileUnder_eq_ok h
  refine ⟨rfl, ?_⟩
  generalize htext : Statement.text _ = text
  have hreturning : ((d.planUnder (s.names d.languageCode) exec r).statement settings.dialect
      settings.mode).returning = d.returned exec := by
    simp [Plan.statement, Descriptor.planUnder, Names.listed, Function.comp_def]
  have hkind : ((d.planUnder (s.names d.languageCode) exec r).statement settings.dialect
      settings.mode).kind = Plan.kind exec text := by
    rw [← htext]
    rfl
  rw [Statement.fetches, hreturning, hkind]
  cases exec with
  | query => cases hwrite : WriteScan.isWrite text <;> simp [Plan.kind, hwrite, Descriptor.returned]
  | _ => simp [Plan.kind, Descriptor.returned, Descriptor.readsRows]

/-- A statement for PostgreSQL has no output parameters. -/
theorem value?_isSome_of_compileAs (hdialect : settings.dialect = .postgres)
    (h : (settings.compileAs d exec).outcome s = .ok st) :
    ∀ p ∈ st.params, p.value?.isSome := by
  rw [outcome_compileAs] at h
  obtain ⟨r, -, rfl⟩ := compileUnder_eq_ok h
  rw [hdialect]
  simp [Plan.statement, Plan.outputs, Dialect.bindsReturned, Param.value?]

/-- For PostgreSQL rows are fetched exactly where the output is made of rows, unless the statement
is a raw query that counts as a write. What the connection gives is then the whole output: all rows,
or the number. The output of such a query, though, is made of rows, and there are none in it. -/
theorem run_compileAs (hdialect : settings.dialect = .postgres)
    (h : (settings.compileAs d exec).outcome s = .ok st) :
    ((∀ r, (Output.ofResult d st.exec r).isOfRows = st.fetches) ↔
      ¬ (exec = .query ∧ WriteScan.isWrite st.text)) ∧
    ∀ c : PgConnection,
      (c.run st).map (Output.ofResult d st.exec) =
        if st.fetches then (c.fetched st).map fun rows => Output.ofResult d exec (.ofRows rows)
        else (c.counted st).map fun n => if exec = .query then .rows [] else .affected n := by
  obtain ⟨hexec, hfetches⟩ := fetches_of_compileAs h
  have hinputs := value?_isSome_of_compileAs hdialect h
  refine ⟨?_, fun c => ?_⟩
  · simp only [hexec, hfetches, Descriptor.isOfRows_ofResult]
    have hresult : Nonempty Result := ⟨{}⟩
    by_cases hquery : exec = .query
    · subst hquery
      simp [Descriptor.readsRows]
    · simp [hquery]
  · rw [c.run_eq hinputs, hexec]
    cases hfetch : st.fetches with
    | true => cases c.fetched st <;> rfl
    | false =>
      by_cases hquery : exec = .query
      · subst hquery
        cases c.counted st <;> rfl
      · have hreads : d.readsRows exec = false := by simpa [hquery, hfetch] using hfetches.symm
        simp only [Bool.false_eq_true, if_false, hquery]
        cases c.counted st with
        | error e => rfl
        | ok n => exact congrArg Except.ok (Descriptor.ofResult_of_not_readsRows hreads _)

/-- A select with the word of a write in a literal. -/
private def sampleReminder : Descriptor where
  table := "t"
  exec := .query
  query := some "SELECT * FROM notes WHERE body = 'please update me'"

private theorem exists_sampleReminder :
    ∃ st, (compileAs { dialect := .postgres } sampleReminder .query).outcome {} = .ok st ∧
      WriteScan.isWrite st.text := by
  rw [outcome_compileAs]
  exact ⟨_, rfl, by decide +kernel⟩

/-- Whatever a connection holds, the output of the select has no rows. -/
theorem run_compileAs_reminder :
    ∃ st, (compileAs { dialect := .postgres } sampleReminder .query).outcome {} = .ok st ∧
      ∀ c : PgConnection, ∀ out, (c.run st).map (Output.ofResult sampleReminder st.exec) = .ok out →
        out = .rows [] := by
  obtain ⟨st, h, hwrite⟩ := exists_sampleReminder
  obtain ⟨-, hrun⟩ := run_compileAs rfl h
  have hfetches : st.fetches = false := by
    rw [(fetches_of_compileAs h).2, if_pos rfl, hwrite, Bool.not_true]
  refine ⟨st, h, fun c out hout => ?_⟩
  rw [hrun, hfetches, if_neg Bool.false_ne_true] at hout
  cases hn : c.counted st with
  | error e =>
    rw [hn] at hout
    cases hout
  | ok n =>
    rw [hn] at hout
    exact (Except.ok.inj hout).symm

/-- The output of the select is made of rows, and they are not fetched. -/
theorem not_fetches_of_isOfRows :
    ¬ ∀ (settings : Settings) (d : Descriptor) (s : Session) (st : Statement),
      settings.dialect = .postgres → d.exec ≠ .list →
        (settings.compileAs d d.exec).outcome s = .ok st →
          ∀ r, (Output.ofResult d st.exec r).isOfRows → st.fetches := by
  intro hall
  obtain ⟨st, h, hwrite⟩ := exists_sampleReminder
  obtain ⟨hexec, hfetches⟩ := fetches_of_compileAs h
  have hrows : (Output.ofResult sampleReminder st.exec {}).isOfRows := by
    rw [hexec]
    rfl
  have htrue := hall { dialect := .postgres } sampleReminder {} st rfl (by decide) h {} hrows
  rw [hfetches, if_pos rfl, hwrite] at htrue
  exact Bool.false_ne_true htrue

end Settings

end FilterSql
