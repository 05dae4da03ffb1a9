import FilterSql.Cache
import Mathlib.Data.List.Dedup

/-!
# What a cache recalls

A cache is asked for texts, ticked and invalidated in any order. What it replies, and what it
counts, is said here by the operations alone: by `sinceClear`, the operations after the last one
that cleared it, and by `gets`, the requests among some operations. The text for a key is the one of
the first request for it since the cache was cleared, and only that request computes its text. The
counts of found and computed texts go back to the start.

`Remembers` relates a cache to its history in this way. An empty cache remembers the empty history
(`remembers_nil`), each operation adds itself to what is remembered (`Remembers.run`), and so does a
run of operations (`Remembers.serve`). `replies_of_history` reads the replies and counts off the
relation.
-/

namespace FilterSql.Cache

/-- An operation on a cache. A request brings the text that its computation would give. -/
inductive Operation where
  | get (key : CacheKey) (text : String)
  | tick (counter : Nat)
  | invalidate

/-- What an operation gives back. -/
inductive Reply where
  /-- The text for a key, and whether it was computed. -/
  | text (s : String) (computed : Bool)
  /-- Whether a tick cleared the cache. -/
  | cleared (b : Bool)
  | nothing
  deriving DecidableEq

/-- Whether a reply needed a computation. -/
def Reply.isComputed : Reply → Bool
  | text _ computed => computed
  | _ => false

/-- What an operation gives back and the session that it leaves. -/
def Operation.run (period : Nat) (s : Session) : Operation → Reply × Session
  | get key text =>
    let ((found, computed), cache) := s.cache.fetch key text
    (.text found computed, { s with cache })
  | tick counter => (.cleared (s.tick period counter).1, (s.tick period counter).2)
  | invalidate => (.nothing, s.invalidate)

/-- What operations give back, one after the other, and the session that they leave. -/
def serve (period : Nat) : Session → List Operation → List Reply × Session
  | s, [] => ([], s)
  | s, op :: ops =>
    ((op.run period s).1 :: (serve period (op.run period s).2 ops).1,
      (serve period (op.run period s).2 ops).2)

/-- The replies of a new cache to a history. -/
def replies (period : Nat) (history : List Operation) : List Reply :=
  (serve period {} history).1

/-- A new cache after a history. -/
def afterHistory (period : Nat) (history : List Operation) : Cache :=
  (serve period {} history).2.cache

/-! ## Histories -/

/-- Whether an operation is one that clears: an invalidation, or a tick on a multiple of a period
that is not 0. -/
def Operation.clears (period : Nat) : Operation → Bool
  | get .. => false
  | tick counter => decide (0 < period ∧ period ∣ counter)
  | invalidate => true

/-- The operations after the last one that clears. -/
def sinceClear (period : Nat) (history : List Operation) : List Operation :=
  (history.reverse.takeWhile fun op => !op.clears period).reverse

/-- The requests among operations: the key of each and the text that its computation gives. -/
def gets (ops : List Operation) : List (CacheKey × String) :=
  ops.filterMap fun
    | .get key text => some (key, text)
    | _ => none

/-- The keys that are requested since the last operation that clears. -/
def keysSinceClear (period : Nat) (history : List Operation) : List CacheKey :=
  (gets (sinceClear period history)).map Prod.fst

theorem gets_append (ops ops' : List Operation) : gets (ops ++ ops') = gets ops ++ gets ops' :=
  List.filterMap_append

theorem sinceClear_of_clears {period : Nat} {op : Operation} (h : op.clears period)
    (history : List Operation) : sinceClear period (history ++ [op]) = [] := by
  simp [sinceClear, h]

theorem sinceClear_of_not_clears {period : Nat} {op : Operation} (h : op.clears period = false)
    (history : List Operation) :
    sinceClear period (history ++ [op]) = sinceClear period history ++ [op] := by
  simp [sinceClear, h]

theorem clearsOn_eq (period counter : Nat) :
    clearsOn period counter = decide (0 < period ∧ period ∣ counter) := by
  rw [clearsOn, Bool.eq_iff_iff, decide_eq_true_iff, Nat.dvd_iff_mod_eq_zero, Bool.and_eq_true,
    bne_iff_ne, beq_iff_eq, Nat.pos_iff_ne_zero]

/-- Of as many counters in a row as a period is long, one is a multiple of the period. -/
theorem existsUnique_dvd_of_pos {period : Nat} (h : 0 < period) (first : Nat) :
    ∃! counter, (first ≤ counter ∧ counter < first + period) ∧ period ∣ counter := by
  -- The first multiple that is not below `first`.
  refine ⟨(first + (period - 1)) / period * period, ⟨⟨?_, ?_⟩, Nat.dvd_mul_left _ _⟩, ?_⟩
  · have hlast := Nat.div_add_mod (first + (period - 1)) period
    have hrest := Nat.mod_lt (first + (period - 1)) h
    rw [Nat.mul_comm]
    omega
  · have hlast := Nat.div_mul_le_self (first + (period - 1)) period
    omega
  · rintro _ ⟨⟨hfirst, hlt⟩, k, rfl⟩
    rw [Nat.mul_comm period k]
    congr 1
    symm
    refine Nat.div_eq_of_lt_le ?_ ?_
    · rw [Nat.mul_comm]
      omega
    · rw [Nat.succ_mul, Nat.mul_comm]
      omega

/-! ## Requests -/

/-- A key without a text is none of the keys of the entries. -/
theorem notMem_keys_of_lookup {entries : List (CacheKey × String)} {key : CacheKey}
    (h : entries.lookup key = none) : key ∉ entries.map Prod.fst := by
  intro hkey
  obtain ⟨e, he, rfl⟩ := List.mem_map.mp hkey
  have hne := List.lookup_eq_none_iff.mp h e he
  simp at hne

theorem lookup_singleton (key key' : CacheKey) (text : String) :
    [(key, text)].lookup key' = if key = key' then some text else none := by
  rw [List.lookup_cons, List.lookup_nil]
  by_cases hkey : key = key'
  · rw [if_pos hkey, hkey, beq_self_eq_true]
  · rw [if_neg hkey, beq_eq_false_iff_ne.mpr (Ne.symm hkey)]

/-- A request adds its text where its key has none, and changes no other text. -/
theorem lookup_fetch (c : Cache) (key key' : CacheKey) (text : String) :
    (c.fetch key text).2.entries.lookup key' =
      (c.entries.lookup key').or (if key = key' then some text else none) := by
  unfold fetch
  rw [← lookup_singleton]
  cases hl : c.entries.lookup key with
  | some kept =>
    by_cases hkey : key = key'
    · rw [← hkey, hl, Option.some_or]
    · rw [lookup_singleton, if_neg hkey, Option.or_none]
  | none =>
    have hcons : ((key, text) :: c.entries).lookup key' =
        ([(key, text)].lookup key').or (c.entries.lookup key') := by
      rw [← List.lookup_append]
      rfl
    by_cases hkey : key = key'
    · rw [hcons, ← hkey, hl, Option.or_none, Option.none_or]
    · rw [hcons, lookup_singleton, if_neg hkey, Option.none_or, Option.or_none]

/-! ## The relation -/

/-- A cache stands for a history with some replies: it gives for a key the text of the first request
since it was cleared, and it counts the requests and the computations of all of the history. -/
structure Remembers (period : Nat) (history : List Operation) (replies : List Reply)
    (s : Session) : Prop where
  lookup : ∀ key, s.cache.entries.lookup key = (gets (sinceClear period history)).lookup key
  nodup : (s.cache.entries.map Prod.fst).Nodup
  requests : s.cache.hits + s.cache.misses = (gets history).length
  computations : s.cache.misses = replies.countP Reply.isComputed

variable {period : Nat} {history : List Operation} {rs : List Reply} {s : Session}

theorem remembers_nil (period : Nat) : Remembers period [] [] {} where
  lookup _ := rfl
  nodup := List.nodup_nil
  requests := rfl
  computations := rfl

/-- A cache has a key exactly when it has been requested since the cache was cleared. -/
theorem Remembers.mem_keys_iff (h : Remembers period history rs s) {key : CacheKey} :
    key ∈ s.cache.entries.map Prod.fst ↔ key ∈ keysSinceClear period history := by
  have hmem : ∀ entries : List (CacheKey × String),
      key ∈ entries.map Prod.fst ↔ entries.lookup key ≠ none := by
    intro entries
    rw [ne_eq, List.lookup_eq_none_iff]
    simp
  rw [keysSinceClear, hmem, hmem, h.lookup]

/-- A cache has as many entries as different keys have been requested since it was cleared. -/
theorem Remembers.length_entries (h : Remembers period history rs s) :
    s.cache.entries.length = (keysSinceClear period history).dedup.length := by
  have hperm : (s.cache.entries.map Prod.fst).Perm (keysSinceClear period history).dedup := by
    refine (List.perm_ext_iff_of_nodup h.nodup (List.nodup_dedup _)).mpr fun key => ?_
    rw [List.mem_dedup, h.mem_keys_iff]
  rw [← hperm.length_eq, List.length_map]

/-- A request for a key that has a text gives that text. -/
theorem run_get_of_some {key : CacheKey} {kept : String}
    (h : s.cache.entries.lookup key = some kept) (text : String) :
    (Operation.get key text).run period s =
      (.text kept false, { s with cache := { s.cache with hits := s.cache.hits + 1 } }) := by
  simp only [Operation.run, fetch, h]

/-- A request for any other key computes its text and adds it. -/
theorem run_get_of_none {key : CacheKey} (h : s.cache.entries.lookup key = none) (text : String) :
    (Operation.get key text).run period s =
      (.text text true, { s with cache := { s.cache with
        entries := (key, text) :: s.cache.entries, misses := s.cache.misses + 1 } }) := by
  simp only [Operation.run, fetch, h]

/-- The reply to a request. -/
theorem Remembers.reply_get (h : Remembers period history rs s) (key : CacheKey) (text : String) :
    ((Operation.get key text).run period s).1 =
      .text (((gets (sinceClear period history)).lookup key).getD text)
        (decide (key ∉ keysSinceClear period history)) := by
  have hkeys : key ∈ s.cache.entries.map Prod.fst ↔ key ∈ keysSinceClear period history :=
    h.mem_keys_iff
  rw [← h.lookup key]
  cases hl : s.cache.entries.lookup key with
  | some kept =>
    have hkey : key ∈ keysSinceClear period history := by
      obtain ⟨before, after, hentries, -⟩ := List.lookup_eq_some_iff.mp hl
      exact hkeys.mp (by simp [hentries])
    rw [run_get_of_some hl]
    simp [hkey]
  | none =>
    have hkey : key ∉ keysSinceClear period history :=
      fun hkey => notMem_keys_of_lookup hl (hkeys.mpr hkey)
    rw [run_get_of_none hl]
    simp [hkey]

theorem reply_tick (period : Nat) (s : Session) (counter : Nat) :
    ((Operation.tick counter).run period s).1 =
      .cleared (decide (0 < period ∧ period ∣ counter)) := by
  rw [← clearsOn_eq, Operation.run, Session.tick]
  cases clearsOn period counter <;> rfl

/-- An operation that clears leaves no entries, and the counts as they were. -/
theorem cache_run_of_clears {op : Operation} (h : op.clears period) (s : Session) :
    (op.run period s).2.cache = { s.cache with entries := [] } := by
  cases op with
  | get key text => cases h
  | tick counter =>
    have hclears : clearsOn period counter = true := by rw [clearsOn_eq]; exact h
    rw [Operation.run, Session.tick, if_pos hclears]
    rfl
  | invalidate => rfl

/-- A tick that does not clear leaves a cache as it was. -/
theorem cache_run_tick_of_not_clears {counter : Nat}
    (h : (Operation.tick counter).clears period = false) (s : Session) :
    ((Operation.tick counter).run period s).2.cache = s.cache := by
  have hclears : clearsOn period counter = false := by rw [clearsOn_eq]; exact h
  rw [Operation.run, Session.tick, if_neg (Bool.eq_false_iff.mp hclears)]

/-- A request adds its text where its key has none, and counts. -/
theorem Remembers.run_get (h : Remembers period history rs s) (key : CacheKey) (text : String) :
    Remembers period (history ++ [.get key text])
      (rs ++ [((Operation.get key text).run period s).1])
      ((Operation.get key text).run period s).2 := by
  have hgets : ∀ ops, gets (ops ++ [.get key text]) = gets ops ++ [(key, text)] :=
    fun ops => gets_append ops _
  have hlength : (gets (history ++ [.get key text])).length = (gets history).length + 1 := by
    rw [hgets, List.length_append, List.length_singleton]
  -- The first request for a key stands before any other for it.
  have hlookup : ∀ key', ((Operation.get key text).run period s).2.cache.entries.lookup key' =
      (gets (sinceClear period (history ++ [.get key text]))).lookup key' := by
    intro key'
    rw [sinceClear_of_not_clears rfl, hgets, List.lookup_append, lookup_singleton, ← h.lookup]
    exact lookup_fetch s.cache key key' text
  cases hl : s.cache.entries.lookup key with
  | some kept =>
    rw [run_get_of_some hl] at hlookup ⊢
    refine ⟨hlookup, h.nodup, ?_, ?_⟩
    · have hrequests := h.requests
      dsimp only
      omega
    · rw [List.countP_append, ← h.computations]
      rfl
  | none =>
    rw [run_get_of_none hl] at hlookup ⊢
    refine ⟨hlookup, List.nodup_cons.mpr ⟨notMem_keys_of_lookup hl, h.nodup⟩, ?_, ?_⟩
    · have hrequests := h.requests
      dsimp only
      omega
    · rw [List.countP_append, ← h.computations]
      rfl

/-- An operation that clears leaves nothing to look up. -/
theorem Remembers.run_of_clears (h : Remembers period history rs s) {op : Operation}
    (hclears : op.clears period) :
    Remembers period (history ++ [op]) (rs ++ [(op.run period s).1]) (op.run period s).2 := by
  have hcache := cache_run_of_clears hclears s
  obtain ⟨hgets, hreply⟩ :
      gets (history ++ [op]) = gets history ∧ (op.run period s).1.isComputed = false := by
    cases op with
    | get key text => cases hclears
    | tick counter | invalidate => exact ⟨by simp [gets], rfl⟩
  refine ⟨fun key => ?_, ?_, ?_, ?_⟩
  · rw [hcache, sinceClear_of_clears hclears]
    rfl
  · rw [hcache]
    exact List.nodup_nil
  · rw [hcache, hgets]
    exact h.requests
  · rw [hcache, List.countP_append, List.countP_singleton, hreply]
    exact h.computations

/-- A tick that does not clear leaves what there is to look up. -/
theorem Remembers.run_tick_of_not_clears (h : Remembers period history rs s) {counter : Nat}
    (hclears : (Operation.tick counter).clears period = false) :
    Remembers period (history ++ [.tick counter])
      (rs ++ [((Operation.tick counter).run period s).1])
      ((Operation.tick counter).run period s).2 := by
  have hcache := cache_run_tick_of_not_clears hclears s
  have hgets : ∀ ops, gets (ops ++ [.tick counter]) = gets ops := by
    intro ops
    rw [gets_append]
    exact List.append_nil _
  refine ⟨fun key => ?_, ?_, ?_, ?_⟩
  · rw [hcache, sinceClear_of_not_clears hclears, hgets]
    exact h.lookup key
  · rw [hcache]
    exact h.nodup
  · rw [hcache, hgets]
    exact h.requests
  · rw [hcache, List.countP_append, h.computations]
    rfl

/-- An operation adds itself to what a cache remembers. -/
theorem Remembers.run (h : Remembers period history rs s) (op : Operation) :
    Remembers period (history ++ [op]) (rs ++ [(op.run period s).1]) (op.run period s).2 := by
  cases hclears : op.clears period with
  | true => exact h.run_of_clears hclears
  | false =>
    cases op with
    | get key text => exact h.run_get key text
    | tick counter => exact h.run_tick_of_not_clears hclears
    | invalidate => cases hclears

/-- A run of operations adds them to what a cache remembers. -/
theorem Remembers.serve (h : Remembers period history rs s) (ops : List Operation) :
    Remembers period (history ++ ops) (rs ++ (serve period s ops).1) (serve period s ops).2 := by
  induction ops generalizing history rs s with
  | nil =>
    rw [List.append_nil]
    unfold Cache.serve
    rw [List.append_nil]
    exact h
  | cons op ops ih =>
    have hnext := ih (h.run op)
    rw [List.append_assoc, List.append_assoc] at hnext
    exact hnext

theorem serve_append (period : Nat) (s : Session) (ops ops' : List Operation) :
    serve period s (ops ++ ops') =
      ((serve period s ops).1 ++ (serve period (serve period s ops).2 ops').1,
        (serve period (serve period s ops).2 ops').2) := by
  induction ops generalizing s with
  | nil => rfl
  | cons op ops ih =>
    rw [List.cons_append, serve, ih, serve]
    rfl

/-- A new cache remembers its history. -/
theorem remembers_history (period : Nat) (history : List Operation) :
    Remembers period history (replies period history) (Cache.serve period {} history).2 := by
  have h := (remembers_nil period).serve history
  rwa [List.nil_append, List.nil_append] at h

/-- One more operation has one more reply. -/
theorem replies_append (period : Nat) (history : List Operation) (op : Operation) :
    replies period (history ++ [op]) =
      replies period history ++ [(op.run period (Cache.serve period {} history).2).1] := by
  rw [replies, serve_append]
  rfl

/-- What a new cache replies after any history, and what it then counts. A request gives the text of
the first request for its key since the cache was cleared, and is computed exactly when it is that
request. A tick clears on the multiples of a period that is not 0, of which there is one among as
many counters in a row as the period is long. Found and computed texts are counted over the whole
history and are not set back when the cache is cleared, while there is one entry for each key that
was requested since then. -/
theorem replies_of_history (period : Nat) (history : List Operation) :
    (∀ key text, replies period (history ++ [.get key text]) =
      replies period history ++
        [.text (((gets (sinceClear period history)).lookup key).getD text)
          (decide (key ∉ keysSinceClear period history))]) ∧
    (∀ counter, replies period (history ++ [.tick counter]) =
      replies period history ++ [.cleared (decide (0 < period ∧ period ∣ counter))]) ∧
    (0 < period → ∀ first, ∃! counter, (first ≤ counter ∧ counter < first + period) ∧
      replies period (history ++ [.tick counter]) = replies period history ++ [.cleared true]) ∧
    (afterHistory period history).hits + (afterHistory period history).misses =
      (gets history).length ∧
    (afterHistory period history).misses =
      (replies period history).countP Reply.isComputed ∧
    (afterHistory period history).entries.length = (keysSinceClear period history).dedup.length ∧
    ∀ op : Operation, op.clears period →
      afterHistory period (history ++ [op]) =
        { afterHistory period history with entries := [] } := by
  have h := remembers_history period history
  have htick : ∀ counter, replies period (history ++ [.tick counter]) =
      replies period history ++ [.cleared (decide (0 < period ∧ period ∣ counter))] := by
    intro counter
    rw [replies_append, reply_tick]
  refine ⟨fun key text => ?_, htick, fun hpos first => ?_, h.requests, h.computations,
    h.length_entries, fun op hclears => ?_⟩
  · rw [replies_append, h.reply_get]
  · simpa [htick, hpos] using existsUnique_dvd_of_pos hpos first
  · rw [afterHistory, serve_append]
    exact cache_run_of_clears hclears _

/-- A tick on 4 clears a cache of period 2, and the next request computes its text anew. -/
example :
    let key : CacheKey := ⟨.column, "", "a"⟩
    replies 2 [.get key "x", .tick 3, .get key "y", .tick 4, .get key "z"] =
      [.text "x" true, .cleared false, .text "x" false, .cleared true, .text "z" true] := by
  decide

end FilterSql.Cache
