import FilterSql.Proofs.Plan

/-!
# The cache changes no answer

A compiler answers calls one after the other, and they share its cache. `Call.run` is what a call
answers and the session that it leaves, and `Settings.session` is the session after a history of
calls on a fresh compiler.

A column is cached under its own name. A list is cached under its names joined to one text, so that
two lists can have one key. `Session.Faithful` is the invariant: every cached text is the SQL of a
column or of one of the lists that were looked up, as it is without a cache. A lookup of any of
these keeps it, so that every call does, also when it fails halfway (`faithful_run`), and so does a
history (`faithful_session`). In a faithful session a call finds for each of its names what it would
have computed (`compileUnder_of_faithful`), unless another list has the key of one of its own.
-/

namespace FilterSql

/-- A list of names whose SQL is cached as a whole. -/
inductive NameList where
  | fields (language : String) (names : List String)
  | order (language : String) (tokens : List String)
  deriving DecidableEq

namespace NameList

/-- What the SQL of a list is cached under. -/
def key : NameList → CacheKey
  | fields language names => ⟨.fields, language, Cache.joinTokens names⟩
  | order language tokens => ⟨.sort, language, Cache.joinTokens tokens⟩

/-- The SQL of a list. -/
def text : NameList → String
  | fields language names => Column.fieldList language names
  | order language tokens => Column.sortList language tokens

/-- Whether no two different lists have one key. -/
def DistinctKeys (lists : List NameList) : Prop :=
  ∀ l ∈ lists, ∀ l' ∈ lists, l.key = l'.key → l = l'

instance (lists : List NameList) : Decidable (DistinctKeys lists) :=
  inferInstanceAs (Decidable (∀ l ∈ lists, ∀ l' ∈ lists, l.key = l'.key → l = l'))

end NameList

/-- The lists that an operation looks up. Nothing is looked up for an empty list. -/
def Descriptor.lists (d : Descriptor) (exec : Exec) : List NameList :=
  (match exec.hasSelectList, d.fields.getD [] with
    | true, f :: fs => [.fields d.languageCode (f :: fs)]
    | _, _ => []) ++
  (match exec.isPaged, d.sort.getD [] with
    | true, t :: ts => [.order d.languageCode (t :: ts)]
    | _, _ => [])

/-- A descriptor without lists looks none up. -/
theorem Descriptor.lists_eq_nil {d : Descriptor} (hfields : d.fields.getD [] = [])
    (hsort : d.sort.getD [] = []) (exec : Exec) : d.lists exec = [] := by
  cases exec <;> simp [lists, hfields, hsort, Exec.hasSelectList, Exec.isPaged]

theorem Descriptor.fields_mem_lists {d : Descriptor} {exec : Exec} (he : exec.hasSelectList)
    {f : String} {fs : List String} (h : d.fields.getD [] = f :: fs) :
    .fields d.languageCode (f :: fs) ∈ d.lists exec := by
  simp [lists, he, h]

theorem Descriptor.order_mem_lists {d : Descriptor} {exec : Exec} (he : exec.isPaged)
    {t : String} {ts : List String} (h : d.sort.getD [] = t :: ts) :
    .order d.languageCode (t :: ts) ∈ d.lists exec := by
  simp [lists, he, h]

/-! ## Faithful sessions -/

/-- Whether every cached text is the SQL of a column or of one of the lists. -/
def Session.Faithful (lists : List NameList) (s : Session) : Prop :=
  ∀ e ∈ s.cache.entries,
    (∃ language name, e = (⟨.column, language, name⟩, Column.resolve language name)) ∨
      ∃ l ∈ lists, e = (l.key, l.text)

namespace Session

variable {lists : List NameList} {s : Session}

theorem faithful_of_entries_nil (h : s.cache.entries = []) : s.Faithful lists := by
  intro e he
  simp [h] at he

/-- The cache of a faithful session gives for a column its SQL. -/
theorem column_of_faithful (h : s.Faithful lists) : s.column = Column.resolve := by
  funext language name
  refine kept_eq fun e he hkey => ?_
  rcases h e he with ⟨language', name', rfl⟩ | ⟨l, hl, rfl⟩
  · obtain ⟨rfl, rfl⟩ : language' = language ∧ name' = name := by simpa using hkey
    rfl
  · cases l <;> simp [NameList.key] at hkey

/-- The cache of a faithful session gives for a list its SQL when no other list has its key. -/
theorem kept_of_faithful (h : s.Faithful lists) {l : NameList}
    (hl : ∀ l' ∈ lists, l.key = l'.key → l = l') : s.kept l.key l.text = l.text := by
  refine kept_eq fun e he hkey => ?_
  rcases h e he with ⟨language, name, rfl⟩ | ⟨l', hl', rfl⟩
  · cases l <;> simp [NameList.key] at hkey
  · rw [hl l' hl' hkey.symm]

end Session

namespace Settings

variable {settings : Settings} {lists : List NameList} {s : Session} {d : Descriptor} {exec : Exec}

/-- A compilation leaves whether a session is faithful, when its own lists are among those that may
be cached. -/
theorem keeps_faithful_compileAs (hlists : d.lists exec ⊆ lists) :
    Compile.Keeps (Session.Faithful lists) (settings.compileAs d exec) := by
  refine closed_compileAs Compile.closed_keeps ?_ (Compile.keeps_log fun _ _ => rfl)
    (fun he => ?_) (fun he => ?_)
  · exact fun language name => Compile.keeps_entries (.inl ⟨language, name, rfl⟩)
  · refine Request.closed_selectList Compile.closed_keeps fun f fs h =>
      Compile.keeps_entries (.inr ?_)
    exact ⟨.fields d.languageCode (f :: fs), hlists (Descriptor.fields_mem_lists he h), rfl⟩
  · refine Descriptor.closed_orderSql Compile.closed_keeps fun t ts h =>
      Compile.keeps_entries (.inr ?_)
    exact ⟨.order d.languageCode (t :: ts), hlists (Descriptor.order_mem_lists he h), rfl⟩

/-- In a faithful session compiling gives what it gives without a cache. -/
theorem compileUnder_of_faithful (settings : Settings) (h : s.Faithful lists)
    (hkeys : ∀ l ∈ d.lists exec, ∀ l' ∈ lists, l.key = l'.key → l = l') :
    settings.compileUnder (s.names d.languageCode) d exec =
      settings.compileUnder (.plain d.languageCode) d exec := by
  refine compileUnder_congr ?_ (fun he => ?_) (fun he => ?_)
  · exact congrFun (Session.column_of_faithful h) _
  · cases hfields : d.fields.getD [] with
    | nil => rfl
    | cons f fs =>
      exact Session.kept_of_faithful h (hkeys _ (Descriptor.fields_mem_lists he hfields))
  · cases hsort : d.sort.getD [] with
    | nil => rfl
    | cons t ts =>
      have hkept := Session.kept_of_faithful h (hkeys _ (Descriptor.order_mem_lists he hsort))
      exact congrArg (" ORDER BY " ++ ·) hkept

end Settings

/-! ## Calls -/

/-- A call on a compiler. -/
inductive Call where
  | compile (d : Descriptor)
  | compileAs (d : Descriptor) (exec : Exec)
  | compileList (d : Descriptor)
  | tick (counter : Nat)
  | invalidate

/-- What a call gives back. -/
inductive Answer where
  | statement (r : Except Error Statement)
  | statements (r : Except Error (Statement × Statement))
  | cleared (b : Bool)
  | nothing

namespace Call

/-- The descriptor that a call compiles. -/
def descriptor? : Call → Option Descriptor
  | compile d | compileAs d _ | compileList d => some d
  | tick _ | invalidate => none

/-- The lists that a call looks up. -/
def lists : Call → List NameList
  | compile d => d.lists d.exec
  | compileAs d exec => d.lists exec
  | compileList d => d.lists .list ++ d.lists .count
  | tick _ | invalidate => []

/-- What a call answers and the session that it leaves. -/
def run (settings : Settings) (s : Session) : Call → Answer × Session
  | compile d => (.statement ((settings.compile d).outcome s), (settings.compile d).after s)
  | compileAs d exec =>
    (.statement ((settings.compileAs d exec).outcome s), (settings.compileAs d exec).after s)
  | compileList d =>
    (.statements ((settings.compileList d).outcome s), (settings.compileList d).after s)
  | tick counter => (.cleared (s.tick settings.clearEvery counter).1,
      (s.tick settings.clearEvery counter).2)
  | invalidate => (.nothing, s.invalidate)

variable {settings : Settings} {lists : List NameList} {s : Session}

/-- A call leaves a faithful session faithful. -/
theorem faithful_run {call : Call} (hlists : call.lists ⊆ lists) (h : s.Faithful lists) :
    (call.run settings s).2.Faithful lists := by
  cases call with
  | compile d => exact (Settings.keeps_faithful_compileAs hlists s).mpr h
  | compileAs d exec => exact (Settings.keeps_faithful_compileAs hlists s).mpr h
  | compileList d =>
    obtain ⟨hlist, hcount⟩ := List.append_subset.mp hlists
    have hkeeps : Compile.Keeps (Session.Faithful lists) (settings.compileList d) := by
      refine Compile.keeps_bind (Settings.keeps_faithful_compileAs hlist) fun data => ?_
      refine Compile.keeps_bind (Settings.keeps_faithful_compileAs hcount) fun count => ?_
      exact Compile.keeps_pure _
    exact (hkeeps s).mpr h
  | tick counter =>
    rw [run, Session.tick]
    split
    · exact Session.faithful_of_entries_nil rfl
    · exact h
  | invalidate => exact Session.faithful_of_entries_nil rfl

/-- In a faithful session a call is answered as on a fresh compiler, when no other list has the key
of one of its own. -/
theorem answer_of_faithful {call : Call} (h : s.Faithful lists)
    (hkeys : ∀ l ∈ call.lists, ∀ l' ∈ lists, l.key = l'.key → l = l') :
    (call.run settings s).1 = (call.run settings {}).1 := by
  have hfresh : ∀ language, ({} : Session).names language = .plain language :=
    Session.names_of_entries_nil rfl
  cases call with
  | compile d =>
    have hunder := settings.compileUnder_of_faithful h hkeys
    simp only [run, Settings.compile, Settings.outcome_compileAs, hfresh, hunder]
  | compileAs d exec =>
    have hunder := settings.compileUnder_of_faithful h hkeys
    simp only [run, Settings.outcome_compileAs, hfresh, hunder]
  | compileList d =>
    have hlist := settings.compileUnder_of_faithful h
      fun l hl => hkeys l (List.mem_append_left _ hl)
    have hcount := settings.compileUnder_of_faithful h
      fun l hl => hkeys l (List.mem_append_right _ hl)
    simp only [run, Settings.outcome_compileList, hfresh, hlist, hcount]
  | tick counter =>
    simp only [run, Session.tick]
    split <;> rfl
  | invalidate => rfl

end Call

/-- The session after a history of calls on a fresh compiler. -/
def Settings.session (settings : Settings) (history : List Call) : Session :=
  history.foldl (fun s call => (call.run settings s).2) {}

/-- A history of calls leaves a session that is faithful to the lists of the calls. -/
theorem Settings.faithful_session (settings : Settings) (history : List Call) :
    (settings.session history).Faithful (history.flatMap Call.lists) := by
  have hrun : ∀ (calls : List Call) (lists : List NameList) (s : Session), s.Faithful lists →
      (∀ call ∈ calls, call.lists ⊆ lists) →
        (calls.foldl (fun s call => (call.run settings s).2) s).Faithful lists := by
    intro calls lists
    induction calls with
    | nil => exact fun s h _ => h
    | cons call calls ih =>
      intro s h hlists
      refine ih _ (Call.faithful_run (hlists call (by simp)) h) fun call hcall => ?_
      exact hlists call (List.mem_cons_of_mem _ hcall)
  refine hrun history _ {} (Session.faithful_of_entries_nil rfl) fun call hcall l hl => ?_
  exact List.mem_flatMap.mpr ⟨call, hcall, hl⟩

/-- A call is answered after any history as on a fresh compiler, if no two different lists of the
history and the call have one key; and whatever the history is, if its descriptor has no lists. -/
theorem Call.answer_after_history (settings : Settings) (history : List Call) (call : Call) :
    (NameList.DistinctKeys ((history ++ [call]).flatMap Call.lists) →
      (call.run settings (settings.session history)).1 = (call.run settings {}).1) ∧
    ((∀ d ∈ call.descriptor?, d.fields.getD [] = [] ∧ d.sort.getD [] = []) →
      (call.run settings (settings.session history)).1 = (call.run settings {}).1) := by
  have hfaithful := settings.faithful_session history
  constructor
  · intro hkeys
    refine answer_of_faithful hfaithful fun l hl l' hl' => ?_
    simp only [List.flatMap_append, List.flatMap_singleton] at hkeys
    exact hkeys l (List.mem_append_right _ hl) l' (List.mem_append_left _ hl')
  · intro hnone
    have hlists : call.lists = [] := by
      cases call with
      | tick _ | invalidate => rfl
      | compile d | compileAs d exec | compileList d =>
        obtain ⟨hfields, hsort⟩ := hnone d rfl
        simp [lists, Descriptor.lists_eq_nil hfields hsort]
    refine answer_of_faithful hfaithful fun l hl => ?_
    simp [hlists] at hl

/-- Rows of these columns in an order, with a filter. -/
private def sampleListing (fields : List String) (conditions : List Condition) : Descriptor where
  table := "t"
  exec := .list
  fields := some fields
  sort := some ["a_desc", "b"]
  language := some "de"
  conditions

/-- A strict compiler refuses the second listing when it has looked up a column and a select list,
and keeps both. -/
private def sampleHistory : List Call :=
  [.compileList (sampleListing ["a", "b"] [.filled "c§"]), .invalidate,
    .compile (sampleListing ["a,b"] [.filled "c§", .unknown "near"]), .tick 3,
    .compileAs (sampleListing ["a", "b"] []) .read]

/-- A listing of which everything is cached is answered as on a fresh compiler. -/
theorem Call.answer_after_history_listing :
    (Settings.session { strict := true } sampleHistory).cache.entries.length = 4 ∧
      ((compileList (sampleListing ["a", "b"] [.blank "c§"])).run { strict := true }
          (Settings.session { strict := true } sampleHistory)).1 =
        ((compileList (sampleListing ["a", "b"] [.blank "c§"])).run { strict := true } {}).1 :=
  ⟨by decide, (answer_after_history _ _ _).1 (by decide)⟩

end FilterSql
