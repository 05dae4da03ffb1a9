import FilterSql.Clause.Resolve

/-!
# What a compilation gives and leaves

A compilation is run in a session: `Compile.outcome` is its result and `Compile.after` the session
that it leaves, also when it fails. Lookups change a session, but not what its cache gives for a
column (`keeps_column_column`): a text that is added for a column is the one that would have been
computed for it. So what a compilation gives can be said by what the cache gives at its start.
`Keeps` says that a compilation leaves such a view of the session as it was. A property that passes
through sequencing (`Closed`), as this one does, holds of a whole compilation when it holds of its
lookups and of its entries of the log.
-/

namespace FilterSql

namespace Session

/-- What the cache gives for a key whose text is otherwise `text`. -/
def kept (s : Session) (key : CacheKey) (text : String) : String :=
  (s.cache.entries.lookup key).getD text

/-- What the cache gives for a column. -/
def column (s : Session) (language name : String) : String :=
  s.kept ⟨.column, language, name⟩ (Column.resolve language name)

/-- What the cache gives for a select list. -/
def fieldList (s : Session) (language : String) (fields : List String) : String :=
  s.kept ⟨.fields, language, Cache.joinTokens fields⟩ (Column.fieldList language fields)

/-- What the cache gives for an order. -/
def sortList (s : Session) (language : String) (tokens : List String) : String :=
  s.kept ⟨.sort, language, Cache.joinTokens tokens⟩ (Column.sortList language tokens)

/-- What the cache gives for a key is the text itself when no other text is cached for the key. -/
theorem kept_eq {s : Session} {key : CacheKey} {text : String}
    (h : ∀ e ∈ s.cache.entries, e.1 = key → e.2 = text) : s.kept key text = text := by
  unfold kept
  cases hl : s.cache.entries.lookup key with
  | none => rfl
  | some t =>
    obtain ⟨before, rest, hentries, -⟩ := List.lookup_eq_some_iff.mp hl
    exact h (key, t) (by simp [hentries]) rfl

/-- A session without cached texts gives the text itself. -/
theorem kept_of_entries_nil {s : Session} (h : s.cache.entries = []) (key : CacheKey)
    (text : String) : s.kept key text = text :=
  kept_eq fun e he => by simp [h] at he

/-- A fetch gives what the cache gives. -/
theorem fetch_fst (s : Session) (key : CacheKey) (text : String) :
    (s.fetch key text).1 = s.kept key text := by
  unfold fetch Cache.fetch kept
  cases s.cache.entries.lookup key <;> rfl

/-- A fetch leaves what the cache gives for every other key. -/
theorem kept_fetch_of_ne (s : Session) {key key' : CacheKey} (h : key' ≠ key)
    (text text' : String) : (s.fetch key text).2.kept key' text' = s.kept key' text' := by
  unfold fetch Cache.fetch kept
  cases hl : s.cache.entries.lookup key with
  | some t => rfl
  | none =>
    have hne : (key' == key) = false := by simpa using h
    simp [List.lookup_cons, hne]

/-- A fetch leaves what the cache gives for the same key and the same text. -/
theorem kept_fetch_self (s : Session) (key : CacheKey) (text : String) :
    (s.fetch key text).2.kept key text = s.kept key text := by
  unfold fetch Cache.fetch kept
  cases hl : s.cache.entries.lookup key with
  | some t => simp [hl]
  | none => simp

end Session

namespace Compile

variable {α β γ : Type}

/-- The result of a compilation that starts in a session. -/
def outcome (m : Compile α) (s : Session) : Except Error α :=
  (m.run.run s).1

/-- The session that a compilation leaves. -/
def after (m : Compile α) (s : Session) : Session :=
  (m.run.run s).2

@[simp]
theorem outcome_pure (a : α) (s : Session) : outcome (pure a) s = .ok a := rfl

@[simp]
theorem after_pure (a : α) (s : Session) : after (pure a) s = s := rfl

/-- A check that touches no session gives its own result. -/
@[simp]
theorem outcome_liftM (r : Except Error α) (s : Session) :
    outcome (liftM r : Compile α) s = r := rfl

@[simp]
theorem after_liftM (r : Except Error α) (s : Session) :
    after (liftM r : Compile α) s = s := rfl

/-- The second part of a compilation starts in the session that the first leaves. -/
@[simp]
theorem outcome_bind (m : Compile α) (f : α → Compile β) (s : Session) :
    outcome (m >>= f) s = (m.outcome s).bind fun a => (f a).outcome (m.after s) := by
  -- Both sides read the run of the first part, which decides whether there is a second.
  unfold outcome after
  show ((ExceptT.bindCont f (m.run.run s).1).run (m.run.run s).2).1 = _
  cases (m.run.run s).1 <;> rfl

/-- A failure of the first part leaves the session as the first part left it. -/
theorem after_bind (m : Compile α) (f : α → Compile β) (s : Session) :
    after (m >>= f) s = match m.outcome s with
      | .ok a => (f a).after (m.after s)
      | .error _ => m.after s := by
  unfold outcome after
  show ((ExceptT.bindCont f (m.run.run s).1).run (m.run.run s).2).2 = _
  cases (m.run.run s).1 <;> rfl

@[simp]
theorem outcome_map (f : α → β) (m : Compile α) (s : Session) :
    outcome (f <$> m) s = (m.outcome s).map f := by
  rw [← bind_pure_comp, outcome_bind]
  cases m.outcome s <;> rfl

theorem outcome_map_eq_ok {f : α → β} {m : Compile α} {s : Session} {b : β} :
    outcome (f <$> m) s = .ok b ↔ ∃ a, m.outcome s = .ok a ∧ f a = b := by
  rw [outcome_map]
  cases m.outcome s <;> simp [Except.map]

theorem outcome_map_eq_error {f : α → β} {m : Compile α} {s : Session} {e : Error} :
    outcome (f <$> m) s = .error e ↔ m.outcome s = .error e := by
  rw [outcome_map]
  cases m.outcome s <;> simp [Except.map]

@[simp]
theorem after_map (f : α → β) (m : Compile α) (s : Session) :
    after (f <$> m) s = m.after s := by
  rw [← bind_pure_comp, after_bind]
  cases m.outcome s <;> rfl

/-! ## Properties of whole compilations -/

/-- A property that compilations have when they do nothing or fail at once, and when both of their
parts have it. What lookups and entries of the log have besides, every compilation has. -/
structure Closed (P : ∀ {α : Type}, Compile α → Prop) : Prop where
  pure : ∀ {α : Type} (a : α), P (Pure.pure a)
  throw : ∀ {α : Type} (e : Error), P (MonadExcept.throw e : Compile α)
  bind : ∀ {α β : Type} {m : Compile α} {f : α → Compile β}, P m → (∀ a, P (f a)) → P (m >>= f)

theorem Closed.map {P : ∀ {α : Type}, Compile α → Prop} (h : Closed P) (f : α → β)
    {m : Compile α} (hm : P m) : P (f <$> m) := by
  rw [← bind_pure_comp]
  exact h.bind hm fun a => h.pure _

/-! ## Views that a compilation keeps -/

/-- Whatever session a compilation starts in, it leaves a view of it as it was. -/
def Keeps (view : Session → γ) (m : Compile α) : Prop :=
  ∀ s, view (m.after s) = view s

variable {view : Session → γ}

theorem keeps_pure (a : α) : Keeps view (pure a : Compile α) := fun _ => rfl

theorem keeps_throw (e : Error) : Keeps view (throw e : Compile α) := fun _ => rfl

/-- A view that both parts keep is kept by the sequence, whether or not it fails in between. -/
theorem keeps_bind {m : Compile α} {f : α → Compile β} (hm : Keeps view m)
    (hf : ∀ a, Keeps view (f a)) : Keeps view (m >>= f) := by
  intro s
  rw [after_bind]
  cases m.outcome s with
  | ok a => exact (hf a _).trans (hm s)
  | error e => exact hm s

/-- The compilations that keep a view are closed under sequencing. -/
theorem closed_keeps : Closed (Keeps view) :=
  ⟨keeps_pure, keeps_throw, keeps_bind⟩

/-! ## Lookups -/

theorem outcome_fetch (kind : FragmentKind) (language tokens text : String) (s : Session) :
    outcome (fetch kind language tokens text) s = .ok (s.kept ⟨kind, language, tokens⟩ text) := by
  rw [← Session.fetch_fst]
  rfl

theorem after_fetch (kind : FragmentKind) (language tokens text : String) (s : Session) :
    after (fetch kind language tokens text) s = (s.fetch ⟨kind, language, tokens⟩ text).2 := rfl

/-- A lookup of a column gives what the cache gives for it. -/
@[simp]
theorem outcome_column (language name : String) (s : Session) :
    outcome (column language name) s = .ok (s.column language name) :=
  outcome_fetch ..

@[simp]
theorem outcome_fieldList (language : String) (fields : List String) (s : Session) :
    outcome (fieldList language fields) s = .ok (s.fieldList language fields) :=
  outcome_fetch ..

@[simp]
theorem outcome_sortList (language : String) (tokens : List String) (s : Session) :
    outcome (sortList language tokens) s = .ok (s.sortList language tokens) :=
  outcome_fetch ..

/-- An entry of the log leaves every view that does not show the log. -/
theorem keeps_log (hview : ∀ s e, view (Session.record s e) = view s) (e : LogEntry) :
    Keeps view (log e) :=
  fun s => hview s e

/-- A lookup of a kind leaves what the cache gives for the keys of another. -/
theorem keeps_fetch {kind : FragmentKind} {key : CacheKey} (h : key.kind ≠ kind)
    (language tokens text : String) :
    Keeps (Session.kept · key) (fetch kind language tokens text) := by
  intro s
  funext text'
  have hne : key ≠ ⟨kind, language, tokens⟩ := fun e => h (by rw [e])
  exact Session.kept_fetch_of_ne s hne text text'

/-- A lookup leaves whether all cached texts have a property that the text looked up has. -/
theorem keeps_entries {P : CacheKey × String → Prop} {kind : FragmentKind}
    {language tokens text : String} (h : P (⟨kind, language, tokens⟩, text)) :
    Keeps (fun s : Session => ∀ e ∈ s.cache.entries, P e) (fetch kind language tokens text) := by
  intro s
  rw [after_fetch]
  unfold Session.fetch Cache.fetch
  cases s.cache.entries.lookup ⟨kind, language, tokens⟩ with
  | some kept => rfl
  | none => simp [h]

/-- What the cache gives for columns is kept when it is for each key of a column. -/
theorem keeps_column_of {m : Compile α}
    (h : ∀ language name, Keeps (Session.kept · ⟨.column, language, name⟩) m) :
    Keeps Session.column m := by
  intro s
  funext language name
  exact congrFun (h language name s) _

/-- What the cache gives for orders is kept when it is for each key of an order. -/
theorem keeps_sortList_of {m : Compile α}
    (h : ∀ language tokens, Keeps (Session.kept · ⟨.sort, language, tokens⟩) m) :
    Keeps Session.sortList m := by
  intro s
  funext language tokens
  exact congrFun (h language _ s) _

/-- A lookup of a column leaves what the cache gives for every column: its text is the one that
would have been computed for it. -/
theorem keeps_column_column (language name : String) :
    Keeps Session.column (column language name) := by
  intro s
  funext language' name'
  unfold column Session.column
  rw [after_fetch]
  -- Only the key that is looked up can be new to the cache.
  by_cases h : (⟨.column, language', name'⟩ : CacheKey) = ⟨.column, language, name⟩
  · obtain ⟨rfl, rfl⟩ : language' = language ∧ name' = name := by simpa using h
    exact Session.kept_fetch_self ..
  · exact Session.kept_fetch_of_ne s h ..

theorem keeps_column_fieldList (language : String) (fields : List String) :
    Keeps Session.column (fieldList language fields) :=
  keeps_column_of fun _ _ => keeps_fetch (by simp) _ _ _

theorem keeps_column_sortList (language : String) (tokens : List String) :
    Keeps Session.column (sortList language tokens) :=
  keeps_column_of fun _ _ => keeps_fetch (by simp) _ _ _

theorem keeps_sortList_column (language name : String) :
    Keeps Session.sortList (column language name) :=
  keeps_sortList_of fun _ _ => keeps_fetch (by simp) _ _ _

theorem keeps_sortList_fieldList (language : String) (fields : List String) :
    Keeps Session.sortList (fieldList language fields) :=
  keeps_sortList_of fun _ _ => keeps_fetch (by simp) _ _ _

end Compile

end FilterSql
