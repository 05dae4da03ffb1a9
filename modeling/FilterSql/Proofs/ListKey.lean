import FilterSql.Proofs.History
import FilterSql.Proofs.Recall
import Mathlib.Data.List.Find

/-!
# Keys of lists

A list of names is cached under its names joined by separators. A separator inside a name is not
told apart from one between two names, so that a key gives back only what stands between the
separators, `Cache.parts` (`joinTokens_eq_iff`). Lists of names without a separator have keys of
their own (`parts_eq_map`).

`NameList.sql` looks a list up, and `NameList.lookUpAll` is the session after a series of such
lookups. A list then gets the SQL of the first list of the series that is `Alike`, of its kind and
language and with its parts, and its own SQL where there is none (`outcome_sql_lookUpAll`). Two
lists that are alike without being the same share one SQL: this happens with a separator in a name
(`not_outcome_sql_eq_of_ne`), and only then.
-/

namespace FilterSql

namespace Cache

/-- The character between the tokens of a list. -/
def separatorChar : Char := '\u001f'

/-- What stands between the separators when tokens are joined. -/
def parts (tokens : List String) : List (List Char) :=
  tokens.flatMap fun t => t.toList.splitOn separatorChar

/-- Whether no token has the separator in it. -/
def Unseparated (tokens : List String) : Prop :=
  ∀ t ∈ tokens, separatorChar ∉ t.toList

instance (tokens : List String) : Decidable (Unseparated tokens) :=
  inferInstanceAs (Decidable (∀ t ∈ tokens, separatorChar ∉ t.toList))

/-- Joining tokens and splitting what comes out is splitting each of them. -/
theorem splitOn_joinTokens {tokens : List String} (h : tokens ≠ []) :
    (joinTokens tokens).toList.splitOn separatorChar = parts tokens := by
  unfold joinTokens parts
  induction tokens with
  | nil => exact absurd rfl h
  | cons t ts ih =>
    cases ts with
    | nil => simp
    | cons u us =>
      have hrec := ih (by simp)
      have hjoin : (String.intercalate separator (t :: u :: us)).toList =
          t.toList ++ separatorChar :: (String.intercalate separator (u :: us)).toList := by
        rw [String.intercalate_cons_cons, String.toList_append, String.toList_append,
          List.append_assoc]
        rfl
      rw [hjoin, List.splitOn, List.splitOnP_append_cons _ _ (by simp), List.flatMap_cons, ← hrec]
      rfl

/-- The text of joined tokens keeps their parts, and nothing else. -/
theorem joinTokens_eq_iff {ts us : List String} (hts : ts ≠ []) (hus : us ≠ []) :
    joinTokens ts = joinTokens us ↔ parts ts = parts us := by
  rw [← splitOn_joinTokens hts, ← splitOn_joinTokens hus]
  constructor
  · intro h
    rw [h]
  · intro h
    -- Putting the separators back between the parts gives the text.
    have hback := congrArg (List.intercalate [separatorChar]) h
    rw [List.intercalate_splitOn, List.intercalate_splitOn] at hback
    exact String.toList_injective hback

/-- Tokens without a separator are their own parts. -/
theorem parts_eq_map {tokens : List String} (h : Unseparated tokens) :
    parts tokens = tokens.map String.toList := by
  unfold parts
  induction tokens with
  | nil => rfl
  | cons t ts ih =>
    have ht : t.toList.splitOn separatorChar = [t.toList] :=
      List.splitOn_eq_singleton (h t List.mem_cons_self)
    have hts := ih fun u hu => h u (List.mem_cons_of_mem t hu)
    rw [List.flatMap_cons, ht, hts]
    rfl

/-- Tokens without a separator are given back by their parts. -/
theorem eq_of_parts_eq {ts us : List String} (hts : Unseparated ts) (hus : Unseparated us)
    (h : parts ts = parts us) : ts = us := by
  rw [parts_eq_map hts, parts_eq_map hus] at h
  exact (List.map_inj_right fun _ _ hlist => String.toList_injective hlist).mp h

end Cache

namespace NameList

/-- The names of a list. -/
def names : NameList → List String
  | fields _ names => names
  | order _ tokens => tokens

/-- Whether lists are of one kind and one language and have the same parts. -/
def Alike : NameList → NameList → Prop
  | fields language names, fields language' names' =>
    language = language' ∧ Cache.parts names = Cache.parts names'
  | order language tokens, order language' tokens' =>
    language = language' ∧ Cache.parts tokens = Cache.parts tokens'
  | _, _ => False

instance (l l' : NameList) : Decidable (l.Alike l') := by
  cases l <;> cases l' <;> unfold Alike <;> infer_instance

/-- Lists with names have one key exactly when they are alike. -/
theorem key_eq_iff {l l' : NameList} (h : l.names ≠ []) (h' : l'.names ≠ []) :
    l.key = l'.key ↔ l.Alike l' := by
  cases l with
  | fields language names =>
    cases l' with
    | fields language' names' =>
      have hjoin := Cache.joinTokens_eq_iff h h'
      simp only [key, Alike, CacheKey.mk.injEq, true_and]
      exact and_congr_right fun _ => hjoin
    | order language' tokens => simp [key, Alike]
  | order language tokens =>
    cases l' with
    | fields language' names => simp [key, Alike]
    | order language' tokens' =>
      have hjoin := Cache.joinTokens_eq_iff h h'
      simp only [key, Alike, CacheKey.mk.injEq, true_and]
      exact and_congr_right fun _ => hjoin

/-- Alike lists whose names have no separator are the same. -/
theorem eq_of_alike {l l' : NameList} (hplain : Cache.Unseparated l.names)
    (hplain' : Cache.Unseparated l'.names) (h : l.Alike l') : l = l' := by
  cases l with
  | fields language names =>
    cases l' with
    | fields language' names' =>
      obtain ⟨rfl, hparts⟩ := h
      exact congrArg (fields language) (Cache.eq_of_parts_eq hplain hplain' hparts)
    | order language' tokens => cases h
  | order language tokens =>
    cases l' with
    | fields language' names => cases h
    | order language' tokens' =>
      obtain ⟨rfl, hparts⟩ := h
      exact congrArg (order language) (Cache.eq_of_parts_eq hplain hplain' hparts)

/-! ## Lookups -/

/-- The cached SQL of a list. -/
def sql : NameList → Compile String
  | fields language names => Compile.fieldList language names
  | order language tokens => Compile.sortList language tokens

/-- The session after looking up lists, one after the other. -/
def lookUpAll (lists : List NameList) (s : Session) : Session :=
  lists.foldl (fun s l => l.sql.after s) s

theorem outcome_sql (l : NameList) (s : Session) :
    l.sql.outcome s = .ok (s.kept l.key l.text) := by
  cases l with
  | fields language names => exact Compile.outcome_fieldList language names s
  | order language tokens => exact Compile.outcome_sortList language tokens s

theorem after_sql (l : NameList) (s : Session) : l.sql.after s = (s.fetch l.key l.text).2 := by
  cases l <;> rfl

/-- Looking a list up adds its SQL where nothing is cached under its key. -/
theorem lookup_after_sql (l : NameList) (s : Session) (key : CacheKey) :
    (l.sql.after s).cache.entries.lookup key =
      (s.cache.entries.lookup key).or (if l.key = key then some l.text else none) := by
  rw [after_sql]
  exact s.cache.lookup_fetch l.key key l.text

/-- After a series of lookups a key has the SQL that it had before, or that of the first list of the
series with this key. -/
theorem lookup_lookUpAll (lists : List NameList) (s : Session) (key : CacheKey) :
    (lookUpAll lists s).cache.entries.lookup key =
      (s.cache.entries.lookup key).or ((lists.find? (·.key = key)).map text) := by
  induction lists generalizing s with
  | nil =>
    rw [List.find?_nil, Option.map_none, Option.or_none]
    rfl
  | cons l ls ih =>
    have hrec := ih (l.sql.after s)
    rw [lookup_after_sql, Option.or_assoc] at hrec
    unfold lookUpAll at hrec ⊢
    rw [List.foldl_cons, hrec, List.find?_cons]
    by_cases hkey : l.key = key <;> simp [hkey]

/-- A list that is looked up after others on a new cache gets the SQL of the first of them that is
alike, and its own SQL where none is. Without separators in names no other list is alike: the key of
the list is that of no other, and it gets what it gets on a new cache. -/
theorem outcome_sql_lookUpAll (served : List NameList) (l : NameList)
    (hnames : ∀ l' ∈ l :: served, l'.names ≠ []) :
    l.sql.outcome (lookUpAll served {}) = .ok ((served.find? (·.Alike l)).getD l).text ∧
    ((∀ l' ∈ l :: served, Cache.Unseparated l'.names) →
      (∀ l' ∈ served, l' ≠ l → l'.key ≠ l.key) ∧
      l.sql.outcome (lookUpAll served {}) = l.sql.outcome {}) := by
  have hl := hnames l List.mem_cons_self
  have hserved : ∀ l' ∈ served, (l'.key = l.key ↔ l'.Alike l) :=
    fun l' h => key_eq_iff (hnames l' (List.mem_cons_of_mem l h)) hl
  -- Lists that have the key of `l` are those that are alike.
  have hfind : served.find? (·.key = l.key) = served.find? (·.Alike l) := by
    exact List.find?_congr fun l' h => decide_eq_decide.mpr (hserved l' h)
  have houtcome :
      l.sql.outcome (lookUpAll served {}) = .ok ((served.find? (·.Alike l)).getD l).text := by
    have hlookup := lookup_lookUpAll served {} l.key
    rw [outcome_sql, Session.kept, hlookup, hfind]
    cases served.find? (·.Alike l) <;> rfl
  refine ⟨houtcome, fun hplain => ?_⟩
  have hsame : ∀ l' ∈ served, l'.Alike l → l' = l := fun l' h halike =>
    eq_of_alike (hplain l' (List.mem_cons_of_mem l h)) (hplain l List.mem_cons_self) halike
  refine ⟨fun l' h hne hkey => hne (hsame l' h ((hserved l' h).mp hkey)), ?_⟩
  have hfresh : l.sql.outcome {} = .ok l.text := by
    rw [outcome_sql]
    rfl
  rw [houtcome, hfresh]
  cases hfound : served.find? (·.Alike l) with
  | none => rfl
  | some l' =>
    have halike : l'.Alike l := by simpa using List.find?_some hfound
    rw [Option.getD_some, hsame l' (List.mem_of_find?_eq_some hfound) halike]

/-- A comma in a name is no separator: the two columns are not taken for the one. -/
theorem outcome_sql_lookUpAll_comma :
    (∀ l' ∈ [fields "en" ["a", "b"], fields "en" ["a,b"], order "en" ["a", "b"]], l'.names ≠ []) ∧
    (∀ l' ∈ [fields "en" ["a", "b"], fields "en" ["a,b"], order "en" ["a", "b"]],
      Cache.Unseparated l'.names) ∧
    (fields "en" ["a", "b"]).sql.outcome
        (lookUpAll [fields "en" ["a,b"], order "en" ["a", "b"]] {}) =
      (fields "en" ["a", "b"]).sql.outcome {} :=
  ⟨by decide, by decide, ((outcome_sql_lookUpAll _ _ (by decide)).2 (by decide)).2⟩

/-- Two columns are taken for one whose name has the separator in it, and so are two sort tokens. -/
theorem not_outcome_sql_eq_of_ne :
    (¬ ∀ (language : String) (first second : List String),
      first ≠ [] → second ≠ [] → first ≠ second →
        (fields language second).sql.outcome ((fields language first).sql.after {}) =
          (fields language second).sql.outcome {}) ∧
    ¬ ∀ (language : String) (first second : List String),
      first ≠ [] → second ≠ [] → first ≠ second →
        (order language second).sql.outcome ((order language first).sql.after {}) =
          (order language second).sql.outcome {} := by
  constructor
  · intro h
    have hsame := h "" ["a\u001fb"] ["a", "b"] (by decide) (by decide) (by decide)
    rw [outcome_sql, outcome_sql] at hsame
    exact absurd (Except.ok.inj hsame) (by decide +kernel)
  · intro h
    have hsame := h "" ["a\u001fb"] ["a", "b"] (by decide) (by decide) (by decide)
    rw [outcome_sql, outcome_sql] at hsame
    exact absurd (Except.ok.inj hsame) (by decide +kernel)

end NameList

end FilterSql
