import FilterSql.Engine
import FilterSql.Proofs.Plan

/-!
# Runs of the engine

A run of the engine is a list of steps (`Engine.serve`): descriptors to run from end to end, and
maintenance ticks. Two engines give the same replies when a relation of their states lasts through
compilations, through the execution of one statement and through a tick (`Simulation.serve`).

One use of it is that the hook changes no reply. A hook can leave its reports and an entry of the
log, and nothing reads either: from two sessions with the same cache a compilation gives the same
and leaves the same cache (`Compile.IgnoresLog`), so that states that differ in no more than their
reports and logs (`EngineState.Alike`) are such a relation.
-/

namespace FilterSql

/-! ## Nothing reads the log -/

namespace Compile

variable {α β : Type}

/-- From sessions with the same cache a compilation gives the same and leaves the same cache. -/
def IgnoresLog (m : Compile α) : Prop :=
  ∀ s s' : Session, s.cache = s'.cache →
    m.outcome s = m.outcome s' ∧ (m.after s).cache = (m.after s').cache

theorem ignoresLog_bind {m : Compile α} {f : α → Compile β} (hm : IgnoresLog m)
    (hf : ∀ a, IgnoresLog (f a)) : IgnoresLog (m >>= f) := by
  intro s s' h
  obtain ⟨houtcome, hcache⟩ := hm s s' h
  rw [outcome_bind, outcome_bind, after_bind, after_bind, houtcome]
  cases m.outcome s' with
  | ok a => exact hf a _ _ hcache
  | error e => exact ⟨rfl, hcache⟩

theorem closed_ignoresLog : Closed IgnoresLog where
  pure _ := fun _ _ h => ⟨rfl, h⟩
  throw _ := fun _ _ h => ⟨rfl, h⟩
  bind := ignoresLog_bind

theorem ignoresLog_log (e : LogEntry) : IgnoresLog (log e) := fun _ _ h => ⟨rfl, h⟩

theorem ignoresLog_fetch (kind : FragmentKind) (language tokens text : String) :
    IgnoresLog (fetch kind language tokens text) := by
  intro s s' h
  rw [outcome_fetch, outcome_fetch, after_fetch, after_fetch]
  unfold Session.kept Session.fetch
  rw [h]
  exact ⟨rfl, rfl⟩

end Compile

namespace Settings

open Compile

theorem ignoresLog_compileAs (settings : Settings) (d : Descriptor) (exec : Exec) :
    IgnoresLog (settings.compileAs d exec) :=
  closed_compileAs closed_ignoresLog (fun _ _ => ignoresLog_fetch _ _ _ _) ignoresLog_log
    (fun _ => Request.closed_selectList closed_ignoresLog fun _ _ _ => ignoresLog_fetch _ _ _ _)
    (fun _ => Descriptor.closed_orderSql closed_ignoresLog fun _ _ _ => ignoresLog_fetch _ _ _ _)

theorem ignoresLog_compileList (settings : Settings) (d : Descriptor) :
    IgnoresLog (settings.compileList d) := by
  refine ignoresLog_bind (settings.ignoresLog_compileAs d _) fun data => ?_
  exact ignoresLog_bind (settings.ignoresLog_compileAs d _) fun count => closed_ignoresLog.pure _

end Settings

/-! ## Runs -/

namespace Engine

variable {σ τ α β : Type}

/-- One thing that the engine is asked for. -/
inductive Step where
  | exec (d : Descriptor)
  /-- A maintenance tick with a counter. -/
  | tick (counter : Nat)

/-- What the engine gives back for a step. -/
inductive Reply where
  | output (result : Except Error Output)
  /-- Whether a tick cleared the cache. -/
  | cleared (cleared : Bool)

/-- Takes one step. -/
def Step.run (settings : Settings) (executor : Executor σ) (hook : Hook) (s : EngineState σ) :
    Step → Reply × EngineState σ
  | exec d =>
    let (result, s) := Engine.exec settings executor hook d s
    (.output result, s)
  | tick counter =>
    let (cleared, s) := s.tick settings counter
    (.cleared cleared, s)

/-- Takes steps one after the other, whatever comes of each. -/
def serve (settings : Settings) (executor : Executor σ) (hook : Hook) :
    List Step → EngineState σ → List Reply × EngineState σ
  | [], s => ([], s)
  | step :: steps, s =>
    let (reply, s) := step.run settings executor hook s
    let (replies, s) := serve settings executor hook steps s
    (reply :: replies, s)

theorem serve_cons (settings : Settings) (executor : Executor σ) (hook : Hook) (step : Step)
    (steps : List Step) (s : EngineState σ) :
    serve settings executor hook (step :: steps) s =
      ((step.run settings executor hook s).1 ::
          (serve settings executor hook steps (step.run settings executor hook s).2).1,
        (serve settings executor hook steps (step.run settings executor hook s).2).2) := rfl

/-- The second part of a run starts in the state that the first leaves. A failure of the first ends
the run. -/
theorem bind_apply (m : Run σ α) (f : α → Run σ β) (s : EngineState σ) :
    (m >>= f) s = match m s with
      | (.ok a, s) => f a s
      | (.error e, s) => (.error e, s) := by
  show ExceptT.bindCont f (m s).1 (m s).2 = _
  rcases m s with ⟨_ | _, _⟩ <;> rfl

/-! ## Simulations -/

/-- From related states two runs give the same and leave related states. -/
def Matches (R : EngineState σ → EngineState τ → Prop) (m : Run σ α) (m' : Run τ α) : Prop :=
  ∀ s s', R s s' → (m s).1 = (m' s').1 ∧ R (m s).2 (m' s').2

section

variable {R : EngineState σ → EngineState τ → Prop}

theorem matches_pure (a : α) : Matches R (pure a) (pure a) := fun _ _ h => ⟨rfl, h⟩

theorem matches_bind {m : Run σ α} {m' : Run τ α} {f : α → Run σ β} {f' : α → Run τ β}
    (hm : Matches R m m') (hf : ∀ a, Matches R (f a) (f' a)) : Matches R (m >>= f) (m' >>= f') := by
  intro s s' h
  obtain ⟨hresult, hstate⟩ := hm s s' h
  rw [bind_apply, bind_apply]
  rcases hms : m s with ⟨r, t⟩
  rcases hms' : m' s' with ⟨r', t'⟩
  rw [hms, hms'] at hresult hstate
  -- Either both go on with the same value, or both end with the same error.
  obtain rfl : r = r' := hresult
  cases r with
  | ok a => exact hf a t t' hstate
  | error e => exact ⟨rfl, hstate⟩

/-- A relation of the states of two engines that lasts through everything that a step is made of. -/
structure Simulation (settings : Settings) (executor : Executor σ) (hook : Hook)
    (executor' : Executor τ) (hook' : Hook) (R : EngineState σ → EngineState τ → Prop) : Prop where
  compiling : ∀ {α : Type} {c : Compile α}, c.IgnoresLog →
    Matches R (Engine.compiling c) (Engine.compiling c)
  execute : ∀ statement,
    Matches R (Engine.execute executor hook statement) (Engine.execute executor' hook' statement)
  tick : ∀ counter s s', R s s' →
    (s.tick settings counter).1 = (s'.tick settings counter).1 ∧
      R (s.tick settings counter).2 (s'.tick settings counter).2

namespace Simulation

variable {settings : Settings} {executor : Executor σ} {hook : Hook} {executor' : Executor τ}
  {hook' : Hook}

/-- Engines in related states run a descriptor alike. -/
theorem exec (h : Simulation settings executor hook executor' hook' R) (d : Descriptor) :
    Matches R (Engine.exec settings executor hook d) (Engine.exec settings executor' hook' d) := by
  unfold Engine.exec
  split
  · refine matches_bind (h.compiling (settings.ignoresLog_compileList d)) fun statements => ?_
    refine matches_bind (h.execute _) fun data => ?_
    exact matches_bind (h.execute _) fun count => matches_pure _
  · refine matches_bind (h.compiling (settings.ignoresLog_compileAs d d.exec)) fun statement => ?_
    exact matches_bind (h.execute _) fun result => matches_pure _

theorem step (h : Simulation settings executor hook executor' hook' R) (step : Step)
    {s : EngineState σ} {s' : EngineState τ} (hs : R s s') :
    (step.run settings executor hook s).1 = (step.run settings executor' hook' s').1 ∧
      R (step.run settings executor hook s).2 (step.run settings executor' hook' s').2 := by
  cases step with
  | exec d =>
    obtain ⟨hresult, hstate⟩ := h.exec d s s' hs
    exact ⟨congrArg Reply.output hresult, hstate⟩
  | tick counter =>
    obtain ⟨hcleared, hstate⟩ := h.tick counter s s' hs
    exact ⟨congrArg Reply.cleared hcleared, hstate⟩

/-- Engines in related states reply alike to any steps, and are in related states after them. -/
theorem serve (h : Simulation settings executor hook executor' hook' R) (steps : List Step)
    {s : EngineState σ} {s' : EngineState τ} (hs : R s s') :
    (serve settings executor hook steps s).1 = (serve settings executor' hook' steps s').1 ∧
      R (serve settings executor hook steps s).2 (serve settings executor' hook' steps s').2 := by
  induction steps generalizing s s' with
  | nil => exact ⟨rfl, hs⟩
  | cons step steps ih =>
    obtain ⟨hreply, hstate⟩ := h.step step hs
    obtain ⟨hreplies, hlast⟩ := ih hstate
    rw [serve_cons, serve_cons, hreply, hreplies]
    exact ⟨rfl, hlast⟩

end Simulation

end

end Engine

/-! ## Hooks change no reply -/

namespace EngineState

variable {σ : Type}

/-- States that differ in no more than their reports and logs. -/
structure Alike (s s' : EngineState σ) : Prop where
  executor : s.executor = s'.executor
  cache : s.session.cache = s'.session.cache
  reads : s.reads = s'.reads
  writes : s.writes = s'.writes

theorem Alike.refl (s : EngineState σ) : s.Alike s := ⟨rfl, rfl, rfl, rfl⟩

theorem Alike.symm {s s' : EngineState σ} (h : s.Alike s') : s'.Alike s :=
  ⟨h.executor.symm, h.cache.symm, h.reads.symm, h.writes.symm⟩

theorem Alike.trans {s s' s'' : EngineState σ} (h : s.Alike s') (h' : s'.Alike s'') :
    s.Alike s'' :=
  ⟨h.executor.trans h'.executor, h.cache.trans h'.cache, h.reads.trans h'.reads,
    h.writes.trans h'.writes⟩

/-- A report changes no more than the reports and the log. -/
theorem alike_report (s : EngineState σ) (hook : Hook) (e : Error) (statement : Statement) :
    (s.report hook e statement).Alike s := by
  cases hook <;> exact ⟨rfl, rfl, rfl, rfl⟩

/-- Counting a statement keeps states alike. -/
theorem Alike.record {s s' : EngineState σ} (h : s.Alike s') (kind : StatementKind) :
    (s.record kind).Alike (s'.record kind) := by
  cases kind with
  | read => exact ⟨h.executor, h.cache, congrArg (· + 1) h.reads, h.writes⟩
  | write => exact ⟨h.executor, h.cache, h.reads, congrArg (· + 1) h.writes⟩

end EngineState

namespace Engine

variable {σ : Type}

open EngineState

/-- Executing a statement keeps states alike, whatever the hooks. -/
theorem matches_execute (executor : Executor σ) (hook hook' : Hook) (statement : Statement) :
    Matches Alike (execute executor hook statement) (execute executor hook' statement) := by
  intro s s' h
  have hrecord := h.record statement.kind
  unfold execute
  simp only [hrecord.executor]
  -- The executor is in the same state on both sides, so that only a failure is of interest.
  rcases executor statement (s'.record statement.kind).executor with ⟨e | result, state⟩
  · refine ⟨rfl, (alike_report _ hook e statement).trans (Alike.trans ?_
      (alike_report _ hook' e statement).symm)⟩
    exact ⟨rfl, hrecord.cache, hrecord.reads, hrecord.writes⟩
  · exact ⟨rfl, rfl, hrecord.cache, hrecord.reads, hrecord.writes⟩

/-- Engines that differ in their hooks keep their states alike. -/
theorem simulation_alike (settings : Settings) (executor : Executor σ) (hook hook' : Hook) :
    Simulation settings executor hook executor hook' Alike where
  compiling hc s s' h := by
    obtain ⟨houtcome, hcache⟩ := hc s.session s'.session h.cache
    exact ⟨houtcome, h.executor, hcache, h.reads, h.writes⟩
  execute := matches_execute executor hook hook'
  tick counter s s' h := by
    unfold EngineState.tick Session.tick
    cases Cache.clearsOn settings.clearEvery counter with
    | true => exact ⟨rfl, h.executor, congrArg Cache.clear h.cache, h.reads, h.writes⟩
    | false => exact ⟨rfl, h.executor, h.cache, h.reads, h.writes⟩

/-- The hook changes no reply, nothing that the executor sees, and no count. -/
theorem serve_alike (settings : Settings) (executor : Executor σ) (hook hook' : Hook)
    (steps : List Step) (s : EngineState σ) :
    (serve settings executor hook steps s).1 = (serve settings executor hook' steps s).1 ∧
      (serve settings executor hook steps s).2.Alike (serve settings executor hook' steps s).2 :=
  (simulation_alike settings executor hook hook').serve steps (Alike.refl s)

end Engine

end FilterSql
