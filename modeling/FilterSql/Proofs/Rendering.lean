import FilterSql.Postgres.Argument
import FilterSql.Proofs.Literal
import Mathlib.Data.List.Basic

/-!
# What deferred values show

A deferred value stands for what it yields, and for null where that is deferred again. A literal
shows it so wherever it is. Trusted text and documents look through every level instead, and so does
the argument of an array for what is inside its items. `Value.chained` lists what they find behind
the first level: they show what a value stands for exactly where all of this is shown as null
(`Value.shown_evaluated`).

For documents this goes item by item, since an array keeps its items apart. Trusted text joins them
with commas, of which the items may have more. But text in the place of `NULL` can only add commas.
Texts with one number of commas have the same commas, and their parts can be told apart again
(`forall_eq_of_intercalate_eq`).
-/

namespace FilterSql

namespace Text

/-! ## Joined texts -/

/-- What stands before a separator can be told if it is known how many separators are in it. -/
theorem append_cons_inj {q : Char} {as bs rest rest' : List Char} (h : as.count q = bs.count q)
    (heq : as ++ q :: rest = bs ++ q :: rest') : as = bs ∧ rest = rest' := by
  induction as generalizing bs with
  | nil =>
    cases bs with
    | nil => exact ⟨rfl, (List.cons.inj heq).2⟩
    | cons b bs =>
      obtain ⟨rfl, -⟩ := List.cons.inj heq
      simp at h
  | cons a as ih =>
    cases bs with
    | nil =>
      obtain ⟨rfl, -⟩ := List.cons.inj heq
      simp at h
    | cons b bs =>
      obtain ⟨rfl, htail⟩ := List.cons.inj heq
      obtain ⟨rfl, hrest⟩ := ih (by simpa [List.count_cons] using h) htail
      exact ⟨rfl, hrest⟩

/-- The number of commas in a text. -/
def commas (s : String) : Nat :=
  s.toList.count ','

theorem commas_intercalate_cons_cons (s t : String) (ts : List String) :
    commas (String.intercalate "," (s :: t :: ts)) =
      commas s + commas (String.intercalate "," (t :: ts)) + 1 := by
  rw [commas, toList_intercalate_cons_cons, List.count_append, List.count_cons_self]
  rfl

variable {α : Type} {f g : α → String} {l : List α}

/-- Texts with more commas in them have more when they are joined. -/
theorem commas_intercalate_le (h : ∀ a ∈ l, commas (f a) ≤ commas (g a)) :
    commas (String.intercalate "," (l.map f)) ≤ commas (String.intercalate "," (l.map g)) := by
  induction l with
  | nil => exact Nat.le_refl _
  | cons a l ih =>
    obtain ⟨ha, hl⟩ := List.forall_mem_cons.mp h
    cases l with
    | nil => simpa using ha
    | cons b l =>
      have hrest := ih hl
      simp only [List.map_cons, commas_intercalate_cons_cons] at hrest ⊢
      omega

/-- Joined texts are equal only if the texts are, where commas can have been added on one side
alone. -/
theorem forall_eq_of_intercalate_eq (h : ∀ a ∈ l, commas (f a) ≤ commas (g a))
    (heq : String.intercalate "," (l.map f) = String.intercalate "," (l.map g)) :
    ∀ a ∈ l, f a = g a := by
  induction l with
  | nil => simp
  | cons a l ih =>
    obtain ⟨ha, hl⟩ := List.forall_mem_cons.mp h
    cases l with
    | nil => simpa using heq
    | cons b l =>
      have hrest := commas_intercalate_le hl
      simp only [List.map_cons] at heq hrest ih
      -- No commas have been added, since there are as many in all.
      have htotal := congrArg commas heq
      rw [commas_intercalate_cons_cons, commas_intercalate_cons_cons] at htotal
      have hcommas : commas (f a) = commas (g a) := by omega
      have hchars := congrArg String.toList heq
      rw [toList_intercalate_cons_cons, toList_intercalate_cons_cons] at hchars
      obtain ⟨hfirst, htail⟩ := append_cons_inj hcommas hchars
      exact List.forall_mem_cons.mpr
        ⟨String.toList_inj.mp hfirst, ih hl (String.toList_inj.mp htail)⟩

end Text

namespace Value

/-! ## Chains -/

mutual

/-- What the deferred values in a value yield behind the first level, where they yield other
deferred values. -/
def chained : Value → List Value
  | array items => chainedAll items
  | deferred (deferred v) => [v]
  | deferred v => chained v
  | _ => []

/-- What the deferred values in some values yield behind the first level. -/
def chainedAll : List Value → List Value
  | [] => []
  | v :: vs => chained v ++ chainedAll vs

end

theorem chainedAll_eq_flatMap (vs : List Value) : chainedAll vs = vs.flatMap chained := by
  induction vs with
  | nil => rfl
  | cons v vs ih => rw [chainedAll, ih, List.flatMap_cons]

/-- Behind the first level of an array is what is behind that of its items. -/
theorem forall_mem_chained_array {items : List Value} {p : Value → Prop} :
    (∀ w ∈ (array items).chained, p w) ↔ ∀ v ∈ items, ∀ w ∈ v.chained, p w := by
  rw [chained, chainedAll_eq_flatMap]
  simp only [List.mem_flatMap]
  exact ⟨fun h v hv w hw => h w ⟨v, hv, hw⟩, fun h w ⟨v, hv, hw⟩ => h v hv w hw⟩

/-- What is evaluated has nothing behind the first level. -/
theorem chained_evaluated : ∀ v : Value, v.evaluated.chained = []
  | .array items => by
    have hitems : ∀ v ∈ items, v.evaluated.chained = [] := fun v _ => chained_evaluated v
    rw [evaluated, chained, chainedAll_eq_flatMap, evaluatedAll_eq_map, List.flatMap_map]
    exact List.flatMap_eq_nil_iff.mpr hitems
  | .deferred v => by
    have hv := chained_evaluated v
    cases v with
    | deferred _ => rfl
    | _ => exact hv
  | .null | .bool _ | .int _ | .float _ | .text _ | .dateTime _ | .json _ => rfl

theorem toJsons_eq_map (vs : List Value) : toJsons vs = vs.map toJson := by
  induction vs with
  | nil => rfl
  | cons v vs ih => rw [toJsons, ih, List.map_cons]

/-- A document shows what a value stands for exactly where it shows null for all that is behind the
first level. -/
theorem toJson_evaluated_iff (v : Value) :
    v.evaluated.toJson = v.toJson ↔ ∀ w ∈ v.chained, w.toJson = .null := by
  induction v using induction with
  | atom v _ hv =>
    have hnone : v.chained = [] := hv ▸ v.chained_evaluated
    simp [hv, hnone]
  | array items ih =>
    have hdocuments : (array items).evaluated.toJson = (array items).toJson ↔
        ∀ v ∈ items, v.evaluated.toJson = v.toJson := by
      rw [evaluated, toJson, toJson, toJsons_eq_map, toJsons_eq_map, evaluatedAll_eq_map,
        List.map_map, Json.array.injEq, List.map_inj_left]
      rfl
    rw [hdocuments, forall_mem_chained_array]
    exact forall₂_congr ih
  | deferred v ih =>
    cases v with
    | deferred v => simpa [evaluated, toJson, chained] using eq_comm
    | _ => exact ih

/-- Looking behind the first level can only add commas to a trusted text. -/
theorem commas_rawText_evaluated_le (v : Value) :
    Text.commas v.evaluated.rawText ≤ Text.commas v.rawText := by
  induction v using induction with
  | atom v _ hv => exact Nat.le_of_eq (by rw [hv])
  | array items ih =>
    rw [evaluated, rawText, rawText, rawTexts_eq_map, rawTexts_eq_map, evaluatedAll_eq_map,
      List.map_map]
    exact Text.commas_intercalate_le ih
  | deferred v ih =>
    cases v with
    | deferred v =>
      have hnull : Text.commas "NULL" = 0 := by decide
      show Text.commas "NULL" ≤ _
      exact hnull ▸ Nat.zero_le _
    | _ => exact ih

/-- Trusted text shows what a value stands for exactly where it shows `NULL` for all that is behind
the first level. -/
theorem rawText_evaluated_iff (v : Value) :
    v.evaluated.rawText = v.rawText ↔ ∀ w ∈ v.chained, w.rawText = "NULL" := by
  induction v using induction with
  | atom v _ hv =>
    have hnone : v.chained = [] := hv ▸ v.chained_evaluated
    simp [hv, hnone]
  | array items ih =>
    have htexts : (array items).evaluated.rawText = (array items).rawText ↔
        ∀ v ∈ items, v.evaluated.rawText = v.rawText := by
      rw [evaluated, rawText, rawText, rawTexts_eq_map, rawTexts_eq_map, evaluatedAll_eq_map,
        List.map_map]
      -- Joined texts have no mark of where an item ends, but items can only have gained commas.
      refine ⟨Text.forall_eq_of_intercalate_eq fun v _ => v.commas_rawText_evaluated_le, ?_⟩
      intro h
      exact congrArg _ (List.map_congr_left h)
    rw [htexts, forall_mem_chained_array]
    exact forall₂_congr ih
  | deferred v ih =>
    cases v with
    | deferred v =>
      -- The only value behind the first level is the one that is yielded last.
      simpa [evaluated, rawText, chained] using eq_comm
    | _ => exact ih

/-- A value stands for what it resolves to, if that is no array. -/
theorem evaluated_eq_resolve {v : Value} (h : ∀ inner, v.resolve ≠ array inner) :
    v.evaluated = v.resolve := by
  cases v with
  | array items => exact absurd rfl (h items)
  | deferred w =>
    cases w with
    | array items => exact absurd rfl (h items)
    | _ => rfl
  | _ => rfl

end Value

/-! ## Arguments -/

namespace Argument

open Value

theorem readAll_eq_none {α β : Type} {read : α → Option β} {l : List α} {a : α} (ha : a ∈ l)
    (h : read a = none) : readAll read l = none := by
  induction l with
  | nil => simp at ha
  | cons b l ih =>
    rcases List.mem_cons.mp ha with rfl | ha
    · simp [readAll, h]
    · simp [readAll, ih ha]

/-- An array with an array among its items is sent as a document. -/
theorem ofItems_of_array {items inner : List Value} (h : .array inner ∈ items) :
    ofItems items = json (.array (items.map Value.toJson)) := by
  have hne : items.isEmpty = false := by
    cases items with
    | nil => simp at h
    | cons v vs => rfl
  have hbools : readAll asBool? items = none := readAll_eq_none h rfl
  have hints : readAll asInt? items = none := readAll_eq_none h rfl
  have hfloats : readAll asFloat? items = none := readAll_eq_none h rfl
  have htexts : readAll asText? items = none := readAll_eq_none h rfl
  simp [ofItems, hne, hbools, hints, hfloats, htexts, toJsons_eq_map]

/-- The argument of an array is that of what its items stand for exactly where their documents
are. -/
theorem ofItems_evaluated_iff (items : List Value) :
    ofItems (items.map evaluated) = ofItems (items.map resolve) ↔
      ∀ v ∈ items, v.evaluated.toJson = v.resolve.toJson := by
  by_cases harray : ∃ v ∈ items, ∃ inner, v.resolve = .array inner
  · -- Both are sent as documents.
    obtain ⟨v, hv, inner, hinner⟩ := harray
    have hresolved : .array inner ∈ items.map resolve := hinner ▸ List.mem_map_of_mem hv
    have hevaluated : .array (evaluatedAll inner) ∈ items.map evaluated := by
      rw [← evaluated, ← hinner, evaluated_resolve]
      exact List.mem_map_of_mem hv
    rw [ofItems_of_array hresolved, ofItems_of_array hevaluated, json.injEq, Json.array.injEq,
      List.map_map, List.map_map, List.map_inj_left]
    rfl
  · -- Without an array among them, items have nothing inside that could be deferred.
    have hsame : ∀ v ∈ items, v.evaluated = v.resolve := fun v hv =>
      evaluated_eq_resolve fun inner hinner => harray ⟨v, hv, inner, hinner⟩
    refine iff_of_true ?_ fun v hv => by rw [hsame v hv]
    rw [List.map_congr_left hsame]

/-- The argument of a value is that of what it stands for exactly where, inside the items of an
array, the document shows null for all that is behind the first level. -/
theorem ofValue_evaluated_iff (v : Value) :
    ofValue v.evaluated = ofValue v ↔
      ∀ items, v.resolve = .array items →
        ∀ i ∈ items, ∀ w ∈ i.resolve.chained, w.toJson = .null := by
  have hresolved := v.isDeferred_resolve
  unfold ofValue
  rw [resolve_evaluated, ← evaluated_resolve]
  generalize v.resolve = u at hresolved
  cases u with
  | deferred _ => simp [isDeferred] at hresolved
  | array items =>
    have hitems : ((evaluatedAll items).map resolve) = items.map evaluated := by
      simp [evaluatedAll_eq_map]
    simp only [evaluated, hitems, ofItems_evaluated_iff, Value.array.injEq, forall_eq']
    refine forall₂_congr fun i _ => ?_
    rw [← evaluated_resolve, toJson_evaluated_iff]
  | _ => simp [evaluated]

end Argument

namespace Value

/-- A literal shows what a value stands for. Trusted text, documents and arguments show it exactly
where they show null for what deferred values yield behind the first level: trusted text and
documents anywhere in the value, and the argument of an array inside its items. -/
theorem shown_evaluated (v : Value) :
    (∀ d, v.evaluated.literal d = v.literal d) ∧
    (v.evaluated.rawText = v.rawText ↔ ∀ w ∈ v.chained, w.rawText = "NULL") ∧
    (v.evaluated.toJson = v.toJson ↔ ∀ w ∈ v.chained, w.toJson = .null) ∧
    (Argument.ofValue v.evaluated = Argument.ofValue v ↔
      ∀ items, v.resolve = .array items →
        ∀ i ∈ items, ∀ w ∈ i.resolve.chained, w.toJson = .null) :=
  ⟨fun d => v.literal_evaluated d, v.rawText_evaluated_iff, v.toJson_evaluated_iff,
    Argument.ofValue_evaluated_iff v⟩

/-- A deferred value that yields another is not shown as null by trusted text and documents, and an
argument does not send it as null where it is in an array in an array. -/
theorem not_shown_evaluated :
    let v := deferred (deferred (int 1))
    v.evaluated.rawText ≠ v.rawText ∧ v.evaluated.toJson ≠ v.toJson ∧
      Argument.ofValue (array [array [v]]).evaluated ≠ Argument.ofValue (array [array [v]]) := by
  have hone : toString (Int64.toInt 1) ≠ "NULL" := by decide +kernel
  have hinner : int 1 ∈ (array [deferred (deferred (int 1))]).resolve.chained := List.mem_cons_self
  refine ⟨hone.symm, by simp [evaluated, toJson], fun h => ?_⟩
  have hnull := (Argument.ofValue_evaluated_iff _).mp h _ rfl _ List.mem_cons_self _ hinner
  simp [toJson] at hnull

end Value

end FilterSql
