import FilterSql.Proofs.Engine
import FilterSql.Proofs.Listing

/-!
# What an engine counts and reports

An executor that keeps a record of its exchanges (`Executor.recorded`) answers as it did without
one. What a part of a run adds to the record, it adds to the counts and to the reports
(`EngineState.Added`): one exchange where a statement is executed (`added_execute`), and nothing
where one is compiled and on a tick. So counts and reports are after any steps those of the
statements handed over and of the answers that were errors (`EngineState.Accounted`).

A step adds nothing when its descriptor does not compile. Otherwise the statements are handed over
one after the other up to the first that fails, whose error is the one that the step gives
(`Engine.Executed`).
-/

namespace FilterSql

/-- A statement that was handed to an executor, with its answer. -/
structure Exchange where
  statement : Statement
  answer : Except Error Result

namespace Exchange

/-- The error of an exchange, with its statement. -/
def failure? (x : Exchange) : Option (Error × Statement) :=
  match x.answer with
  | .ok _ => none
  | .error e => some (e, x.statement)

/-- How many statements of a kind were handed over. -/
def count (kind : StatementKind) (exchanges : List Exchange) : Nat :=
  exchanges.countP (·.statement.kind = kind)

@[simp]
theorem count_append (kind : StatementKind) (xs ys : List Exchange) :
    count kind (xs ++ ys) = count kind xs + count kind ys :=
  List.countP_append

end Exchange

/-- An executor that keeps a record of its exchanges. -/
def Executor.recorded {σ : Type} (executor : Executor σ) : Executor (σ × List Exchange) :=
  fun statement (state, exchanges) =>
    let (answer, state) := executor statement state
    (answer, state, exchanges ++ [⟨statement, answer⟩])

/-- The reports that a hook gets of exchanges: one for each that failed. -/
def Hook.reported (hook : Hook) (exchanges : List Exchange) : List (Error × Statement) :=
  if hook = .none then [] else exchanges.filterMap Exchange.failure?

@[simp]
theorem Hook.reported_append (hook : Hook) (xs ys : List Exchange) :
    hook.reported (xs ++ ys) = hook.reported xs ++ hook.reported ys := by
  cases hook <;> simp [reported]

@[simp]
theorem Hook.reported_nil (hook : Hook) : hook.reported [] = [] := by
  cases hook <;> rfl

/-- The statements of a descriptor, all of which are compiled before any is executed. -/
def Settings.statements (settings : Settings) (d : Descriptor) : Compile (List Statement) :=
  if d.exec = .list then (fun (data, count) => [data, count]) <$> settings.compileList d
  else ([·]) <$> settings.compile d

/-! ## Counts, reports and the record -/

namespace EngineState

variable {σ : Type} {hook : Hook} {s s' s'' : EngineState (σ × List Exchange)}

/-- The state of an engine without the record of its executor. -/
def forget (s : EngineState (σ × List Exchange)) : EngineState σ :=
  { s with executor := s.executor.1 }

/-- What an engine has counted and reported is what is on record. -/
structure Accounted (hook : Hook) (s : EngineState (σ × List Exchange)) : Prop where
  reads : s.reads = Exchange.count .read s.executor.2
  writes : s.writes = Exchange.count .write s.executor.2
  reports : s.reports = hook.reported s.executor.2

/-- Between two states of an engine there were these exchanges, on record, counted and reported. -/
structure Added (hook : Hook) (s s' : EngineState (σ × List Exchange))
    (exchanges : List Exchange) : Prop where
  record : s'.executor.2 = s.executor.2 ++ exchanges
  reads : s'.reads = s.reads + Exchange.count .read exchanges
  writes : s'.writes = s.writes + Exchange.count .write exchanges
  reports : s'.reports = s.reports ++ hook.reported exchanges

/-- Where record, counts and reports stay as they are there were no exchanges. -/
theorem added_nil (hrecord : s'.executor = s.executor) (hreads : s'.reads = s.reads)
    (hwrites : s'.writes = s.writes) (hreports : s'.reports = s.reports) : Added hook s s' [] where
  record := by rw [hrecord, List.append_nil]
  reads := hreads
  writes := hwrites
  reports := by rw [hreports, Hook.reported_nil, List.append_nil]

theorem Added.trans {xs ys : List Exchange} (h : Added hook s s' xs) (h' : Added hook s' s'' ys) :
    Added hook s s'' (xs ++ ys) where
  record := by rw [h'.record, h.record, List.append_assoc]
  reads := by rw [h'.reads, h.reads, Exchange.count_append, Nat.add_assoc]
  writes := by rw [h'.writes, h.writes, Exchange.count_append, Nat.add_assoc]
  reports := by rw [h'.reports, h.reports, Hook.reported_append, List.append_assoc]

/-- Exchanges that are counted and reported leave the account right. -/
theorem Accounted.of_added {xs : List Exchange} (hs : s.Accounted hook) (h : Added hook s s' xs) :
    s'.Accounted hook where
  reads := by rw [h.reads, h.record, Exchange.count_append, hs.reads]
  writes := by rw [h.writes, h.record, Exchange.count_append, hs.writes]
  reports := by rw [h.reports, h.record, Hook.reported_append, hs.reports]

end EngineState

namespace Engine

variable {σ : Type} (settings : Settings) (executor : Executor σ) (hook : Hook)

open EngineState

/-- Executing a statement adds the exchange of it and its answer. -/
theorem added_execute (statement : Statement) (s : EngineState (σ × List Exchange)) :
    Added hook s (execute executor.recorded hook statement s).2
      [⟨statement, (execute executor.recorded hook statement s).1⟩] := by
  rcases s with ⟨⟨state, exchanges⟩, session, reads, writes, reports⟩
  rcases statement with ⟨text, params, kind, exec, returning⟩
  unfold execute Executor.recorded
  cases kind
  all_goals
    dsimp only [record]
    rcases executor _ state with ⟨e | result, state'⟩
    · cases hook <;> exact ⟨rfl, rfl, rfl, by simp [report, log, Hook.reported, Exchange.failure?]⟩
    · exact ⟨rfl, rfl, rfl, by simp [Hook.reported, Exchange.failure?]⟩

theorem exists_execute (statement : Statement) (s : EngineState (σ × List Exchange)) :
    ∃ answer s', execute executor.recorded hook statement s = (answer, s') ∧
      Added hook s s' [⟨statement, answer⟩] :=
  ⟨_, _, rfl, added_execute executor hook statement s⟩

/-- Compiling adds no exchange. -/
theorem exists_compiling {α : Type} (c : Compile α) (s : EngineState (σ × List Exchange)) :
    ∃ s', compiling c s = (c.outcome s.session, s') ∧ Added hook s s' [] :=
  ⟨_, rfl, added_nil rfl rfl rfl rfl⟩

theorem added_tick (counter : Nat) (s : EngineState (σ × List Exchange)) :
    Added hook s (s.tick settings counter).2 [] :=
  added_nil rfl rfl rfl rfl

/-- The record of its executor changes nothing for an engine. -/
theorem simulation_forget :
    Simulation settings executor.recorded hook executor hook (fun s s' => s.forget = s') where
  compiling _ := by
    rintro s _ rfl
    exact ⟨rfl, rfl⟩
  execute := by
    rintro ⟨text, params, kind, exec, returning⟩
      ⟨⟨state, exchanges⟩, session, reads, writes, reports⟩ _ rfl
    unfold execute Executor.recorded
    cases kind
    all_goals
      dsimp only [record, forget]
      rcases executor _ state with ⟨e | result, state'⟩
      · cases hook <;> exact ⟨rfl, rfl⟩
      · exact ⟨rfl, rfl⟩
  tick := by
    rintro counter s _ rfl
    exact ⟨rfl, rfl⟩

/-! ## The exchanges of a step -/

/-- Statements are handed over one after the other up to the first that fails, and nothing else
makes them fail. -/
inductive Executed : List Statement → List Exchange → Except Error Unit → Prop where
  | done : Executed [] [] (.ok ())
  | failed (statement : Statement) (statements : List Statement) (e : Error) :
    Executed (statement :: statements) [⟨statement, .error e⟩] (.error e)
  | answered (statement : Statement) (answer : Result) {statements : List Statement}
      {exchanges : List Exchange} {result : Except Error Unit} :
    Executed statements exchanges result →
      Executed (statement :: statements) (⟨statement, .ok answer⟩ :: exchanges) result

/-- What the exchanges of a step have to do with the statements that its descriptor compiles to and
with the result that it gives. -/
structure Handled (statements : List Statement) (exchanges : List Exchange)
    (result : Except Error Output) : Prop where
  /-- Statements are handed over in their order, each at most once. -/
  handed : exchanges.map (·.statement) <+: statements
  /-- Nothing is handed over after a failure. -/
  stops : ∀ x ∈ exchanges.dropLast, ∃ answer, x.answer = .ok answer
  fails_iff : ∀ e, result = .error e ↔ ∃ x ∈ exchanges, x.answer = .error e
  succeeds_iff : (∃ output, result = .ok output) ↔
    exchanges.map (·.statement) = statements ∧ ∀ x ∈ exchanges, ∃ answer, x.answer = .ok answer

namespace Executed

variable {statements : List Statement} {exchanges : List Exchange} {result : Except Error Unit}

theorem handed (h : Executed statements exchanges result) :
    exchanges.map (·.statement) <+: statements := by
  induction h with
  | done => exact List.prefix_refl []
  | failed statement statements e => exact ⟨statements, rfl⟩
  | answered statement answer _ ih => exact (List.cons_prefix_cons).mpr ⟨rfl, ih⟩

theorem stops (h : Executed statements exchanges result) :
    ∀ x ∈ exchanges.dropLast, ∃ answer, x.answer = .ok answer := by
  induction h with
  | done => simp
  | failed statement statements e => simp
  | @answered statement answer statements exchanges result h ih =>
    cases exchanges with
    | nil => simp
    | cons y ys =>
      rw [List.dropLast_cons_cons]
      exact List.forall_mem_cons.mpr ⟨⟨answer, rfl⟩, ih⟩

theorem error_iff (h : Executed statements exchanges result) (e : Error) :
    result = .error e ↔ ∃ x ∈ exchanges, x.answer = .error e := by
  induction h with
  | done => simp
  | failed statement statements e' => simp
  | answered statement answer _ ih => simp [ih]

theorem ok_iff (h : Executed statements exchanges result) :
    result = .ok () ↔ exchanges.map (·.statement) = statements ∧
      ∀ x ∈ exchanges, ∃ answer, x.answer = .ok answer := by
  induction h with
  | done => simp
  | failed statement statements e => simp
  | answered statement answer _ ih => simp [ih]

theorem handled {result : Except Error Output}
    (h : Executed statements exchanges (result.map fun _ => ())) :
    Handled statements exchanges result where
  handed := h.handed
  stops := h.stops
  fails_iff e := by
    rw [← h.error_iff e]
    cases result <;> simp [Except.map]
  succeeds_iff := by
    rw [← h.ok_iff]
    cases result <;> simp [Except.map]

end Executed

/-- What a step does with its descriptor: nothing is executed unless all of its statements compile,
and then they are executed in order. -/
theorem exec_exchanges (d : Descriptor) (s : EngineState (σ × List Exchange)) :
    ∃ exchanges, Added hook s (exec settings executor.recorded hook d s).2 exchanges ∧
      match (settings.statements d).outcome s.session with
      | .error e =>
        (exec settings executor.recorded hook d s).1 = .error e ∧ exchanges = []
      | .ok statements => Executed statements exchanges
          ((exec settings executor.recorded hook d s).1.map fun _ => ()) := by
  unfold exec Settings.statements
  split
  case isTrue =>
    obtain ⟨s₁, hrun, hcompiled⟩ := exists_compiling hook (settings.compileList d) s
    simp only [bind_apply, hrun, Compile.outcome_map]
    cases (settings.compileList d).outcome s.session with
    | error e => exact ⟨[], hcompiled, rfl, rfl⟩
    | ok statements =>
      -- The count is handed over only after an answer to the select.
      obtain ⟨data, count⟩ := statements
      obtain ⟨rows, s₂, hrows, hdata⟩ := exists_execute executor hook data s₁
      simp only [hrows]
      cases rows with
      | error e => exact ⟨_, hcompiled.trans hdata, .failed data [count] e⟩
      | ok rows =>
        obtain ⟨number, s₃, hnumber, hcount⟩ := exists_execute executor hook count s₂
        simp only [hnumber]
        cases number with
        | error e =>
          exact ⟨_, hcompiled.trans (hdata.trans hcount), .answered data rows (.failed count [] e)⟩
        | ok number =>
          exact ⟨_, hcompiled.trans (hdata.trans hcount),
            .answered data rows (.answered count number .done)⟩
  case isFalse =>
    obtain ⟨s₁, hrun, hcompiled⟩ := exists_compiling hook (settings.compile d) s
    simp only [bind_apply, hrun, Compile.outcome_map]
    cases (settings.compile d).outcome s.session with
    | error e => exact ⟨[], hcompiled, rfl, rfl⟩
    | ok statement =>
      obtain ⟨result, s₂, hresult, hadded⟩ := exists_execute executor hook statement s₁
      simp only [hresult]
      cases result with
      | error e => exact ⟨_, hcompiled.trans hadded, .failed statement [] e⟩
      | ok result => exact ⟨_, hcompiled.trans hadded, .answered statement result .done⟩

/-- Whatever the steps, there were exchanges that are on record, counted and reported. -/
theorem serve_exchanges (steps : List Step) (s : EngineState (σ × List Exchange)) :
    ∃ exchanges, Added hook s (serve settings executor.recorded hook steps s).2 exchanges := by
  induction steps generalizing s with
  | nil => exact ⟨[], added_nil rfl rfl rfl rfl⟩
  | cons step steps ih =>
    obtain ⟨xs, hstep⟩ :
        ∃ xs, Added hook s (step.run settings executor.recorded hook s).2 xs := by
      cases step with
      | exec d =>
        obtain ⟨xs, hadded, -⟩ :=
          exec_exchanges settings executor hook d s
        exact ⟨xs, hadded⟩
      | tick counter => exact ⟨[], added_tick settings hook counter s⟩
    obtain ⟨ys, hsteps⟩ := ih (step.run settings executor.recorded hook s).2
    exact ⟨xs ++ ys, hstep.trans hsteps⟩

/-- What stops the statements of a descriptor from being compiled is an error of compiling. -/
theorem isCompile_of_statements {settings : Settings} {d : Descriptor} {s : Session} {e : Error}
    (h : (settings.statements d).outcome s = .error e) : e.isCompile := by
  have hcompile : ∀ exec, (settings.compileAs d exec).outcome s = .error e → e.isCompile := by
    intro exec he
    rw [Settings.outcome_compileAs] at he
    exact Settings.isCompile_of_compileUnder he
  unfold Settings.statements at h
  split at h
  · have hlist := Compile.outcome_map_eq_error.mp h
    -- A list compiles its select first, with the error that the count would have.
    rw [Settings.outcome_compileList_eq_map] at hlist
    refine hcompile .count ?_
    cases hcount : (settings.compileAs d .count).outcome s with
    | error e' => simpa [hcount, Except.map] using hlist
    | ok count => simp [hcount, Except.map] at hlist
  · exact hcompile d.exec (Compile.outcome_map_eq_error.mp h)

/-- A list has two statements, everything else has one. -/
theorem length_of_statements {settings : Settings} {d : Descriptor} {s : Session}
    {statements : List Statement} (h : (settings.statements d).outcome s = .ok statements) :
    statements.length = if d.exec = .list then 2 else 1 := by
  unfold Settings.statements at h
  split at h
  all_goals
    obtain ⟨compiled, -, rfl⟩ := Compile.outcome_map_eq_ok.mp h
    simp [*]

/-- A step whose statements do not compile executes, counts and reports nothing, and otherwise its
exchanges are those of its statements. -/
theorem exec_handled (d : Descriptor) (s : EngineState (σ × List Exchange)) :
    ∃ exchanges,
      let (result, s') := exec settings executor.recorded hook d s
      s'.executor.2 = s.executor.2 ++ exchanges ∧
      match (settings.statements d).outcome s.session with
      | .error e =>
        result = .error e ∧ e.isCompile ∧ exchanges = [] ∧
          s'.reads = s.reads ∧ s'.writes = s.writes ∧ s'.reports = s.reports
      | .ok statements =>
        statements.length = (if d.exec = .list then 2 else 1) ∧
          Handled statements exchanges result := by
  obtain ⟨exchanges, hadded, hresult⟩ := exec_exchanges settings executor hook d s
  refine ⟨exchanges, hadded.record, ?_⟩
  cases hstatements : (settings.statements d).outcome s.session with
  | error e =>
    simp only [hstatements] at hresult
    obtain ⟨hresult, rfl⟩ := hresult
    exact ⟨hresult, isCompile_of_statements hstatements, rfl, hadded.reads, hadded.writes,
      hadded.reports.trans (by rw [Hook.reported_nil, List.append_nil])⟩
  | ok statements =>
    simp only [hstatements] at hresult
    exact ⟨length_of_statements hstatements, hresult.handled⟩

/-- An engine that has taken any steps from a start without counts and reports, and whose executor
keeps a record, replies as it does without the record and with any other hook, and its counts and
reports are those of the exchanges on record, also after a statement that a step has yet to follow
with another. In its next step the statements of the descriptor are all compiled before any is
executed; an error of that is the result, and nothing is executed, counted or reported. The
statements that do compile are handed over in order, and the step fails with exactly the errors
that they are answered with. -/
theorem serve_accounted (session : Session) (start : σ) (steps : List Step) :
    let (replies, s) :=
      serve settings executor.recorded hook steps { executor := (start, []), session }
    serve settings executor hook steps { executor := start, session } = (replies, s.forget) ∧
    (∀ hook', (serve settings executor.recorded hook' steps
      { executor := (start, []), session }).1 = replies) ∧
    s.Accounted hook ∧
    (∀ (session : Session) statement,
      (execute executor.recorded hook statement { s with session }).2.Accounted hook) ∧
    ∀ d, ∃ exchanges,
      let (result, s') := exec settings executor.recorded hook d s
      s'.executor.2 = s.executor.2 ++ exchanges ∧
      match (settings.statements d).outcome s.session with
      | .error e =>
        result = .error e ∧ e.isCompile ∧ exchanges = [] ∧
          s'.reads = s.reads ∧ s'.writes = s.writes ∧ s'.reports = s.reports
      | .ok statements =>
        statements.length = (if d.exec = .list then 2 else 1) ∧
          Handled statements exchanges result := by
  rcases hrun : serve settings executor.recorded hook steps { executor := (start, []), session }
    with ⟨replies, s⟩
  have hforget := (simulation_forget settings executor hook).serve steps
    (Eq.refl (EngineState.forget { executor := (start, []), session }))
  have halike := fun hook' => serve_alike settings executor.recorded hook hook' steps
    { executor := (start, []), session }
  obtain ⟨past, hadded⟩ :=
    serve_exchanges settings executor hook steps { executor := (start, []), session }
  rw [hrun] at hforget hadded
  simp only [hrun] at halike
  -- Nothing was counted, reported or recorded at the start, and all that was added was an exchange.
  have hs : s.Accounted hook :=
    Accounted.of_added ⟨rfl, rfl, hook.reported_nil.symm⟩ hadded
  refine ⟨Prod.ext hforget.1.symm hforget.2.symm, fun hook' => (halike hook').1.symm, hs, ?_,
    fun d => exec_handled settings executor hook d s⟩
  intro session statement
  have hsession : Accounted hook { s with session } := ⟨hs.reads, hs.writes, hs.reports⟩
  exact hsession.of_added (added_execute executor hook statement _)

end Engine

end FilterSql
