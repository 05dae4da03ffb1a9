import FilterSql.Proofs.Column
import FilterSql.Proofs.Placeholder.Scan

/-!
# The placeholders of a filter

What the conditions of a filter bind (`Condition.bound`) and what text they take from the caller
(`Condition.strings`) are read off the condition tree. The values of a filter's fragment are what
its conditions bind, in order (`values_filterFragment`), and the fragment is legible when no text of
the caller has the lead of a placeholder in it (`legible_filterFragment`).
-/

namespace FilterSql

/-- Nothing that the SQL of a column adds to its name is the lead of a placeholder. -/
theorem Dialect.placeholderLead_notMem_added (d : Dialect) :
    d.placeholderLead ∉ Column.added := by
  cases d <;> decide

/-- A column of names and a language without the lead has none. -/
theorem Dialect.avoids_resolve {d : Dialect} {language name : String} (hl : d.Avoids language)
    (hn : d.Avoids name) : d.Avoids (Column.resolve language name) := by
  intro h
  rcases Column.mem_sqlOf h with h | h | h
  · exact hl h
  · exact hn h
  · exact d.placeholderLead_notMem_added h

namespace Condition

mutual

/-- The values that a condition binds, in order. Null is not bound by a comparison, and an owner
that is null not at all. -/
def bound : Condition → List Value
  | compare _ _ value => if value.resolve.isNull then [] else [value.resolve]
  | among _ values | notAmong _ values => values.map Value.resolve
  | between _ low high => [low.resolve, high.resolve]
  | search _ term anchor => [.text (anchor.pattern term)]
  | blank _ | filled _ | raw _ | unknown _ => []
  | datePart _ _ _ value => [value.resolve]
  | permit _ values _ owner =>
    ((owner.filter (!·.isNull)).map Value.resolve).toList ++ values.map Value.resolve
  | any conditions => boundAll conditions

/-- The values that conditions bind, depth first and from left to right. -/
def boundAll : List Condition → List Value
  | [] => []
  | c :: cs => bound c ++ boundAll cs

end

mutual

/-- The texts of a condition that go into the statement: its names, and SQL of the caller. -/
def strings : Condition → List String
  | compare name .. | among name _ | notAmong name _ | between name .. | search name ..
  | blank name | filled name | datePart _ name .. | permit name .. => [name]
  | raw sql => [sql]
  | any conditions => allStrings conditions
  | unknown _ => []

/-- The texts of conditions that go into the statement. -/
def allStrings : List Condition → List String
  | [] => []
  | c :: cs => strings c ++ allStrings cs

end

theorem boundAll_eq_flatMap (cs : List Condition) : boundAll cs = cs.flatMap bound := by
  induction cs with
  | nil => rfl
  | cons c cs ih => rw [boundAll, ih, List.flatMap_cons]

theorem mem_allStrings {c : Condition} {cs : List Condition} (hc : c ∈ cs) {s : String}
    (hs : s ∈ c.strings) : s ∈ allStrings cs := by
  induction cs with
  | nil => simp at hc
  | cons c' cs ih =>
    rw [allStrings, List.mem_append]
    rcases List.mem_cons.mp hc with rfl | hc
    · exact .inl hs
    · exact .inr (ih hc)

/-! ## Values -/

variable (column : String → String)

/-- A test binds what its condition binds. -/
theorem values_test? {c : Condition} {t : Test} (h : c.test? column = some t) :
    t.fragment.values = c.bound := by
  cases c with
  | compare name comparer value =>
    obtain rfl : comparisonTest (column name) comparer value = t := by simpa [test?] using h
    unfold comparisonTest bound
    cases value.resolve.isNull with
    | true => cases comparer <;> rfl
    | false => simp [Test.fragment]
  | permit name values required owner =>
    obtain rfl := Option.some.inj h
    rw [bound]
    cases owner.filter (!·.isNull) <;> cases required <;>
      simp [Test.fragment, Test.ways, Test.membership, Fragment.join]
  | any _ | unknown _ => simp [test?] at h
  | _ =>
    obtain rfl := Option.some.inj h
    simp [Test.fragment, Test.membership, bound, Value.resolve]

/-- A condition binds the values of its fragment, and none if it emits nothing. -/
theorem values_fragment? (c : Condition) :
    (c.fragment? column).toList.flatMap Fragment.values = c.bound := by
  induction c using Condition.induction with
  | test c hc =>
    rw [fragment?_of_isTest column hc]
    cases ht : c.test? column with
    | none => cases c <;> simp [isTest, test?] at hc ht
    | some t => simp [values_test? column ht]
  | unknown kind => rfl
  | any cs ih =>
    rw [bound, boundAll_eq_flatMap, ← flatMap_filterMap ih, fragment?_any]
    cases cs.filterMap (fragment? column) with
    | nil => rfl
    | cons f fs => simp

/-- The values of a filter are those that its conditions bind. -/
@[simp]
theorem values_filterFragment (cs : List Condition) :
    (filterFragment column cs).values = boundAll cs := by
  rw [boundAll_eq_flatMap, ← flatMap_filterMap fun c _ => values_fragment? column c,
    filterFragment_eq]
  cases cs.filterMap (fragment? column) with
  | nil => rfl
  | cons f fs => simp

/-! ## Legibility -/

variable {column} {d : Dialect}

theorem legible_bindList (vs : List Value) :
    (Fragment.bindList vs).Legible d := by
  cases vs with
  | nil => exact ⟨by cases d <;> decide, trivial⟩
  | cons v vs =>
    have hcomma : d.Avoids "," := by cases d <;> decide
    have hapart : Fragment.StartsApart [.text ","] := ⟨by decide, Text.noDigitFirst_cons rfl []⟩
    -- A value is followed by nothing or by the comma before the next value.
    suffices h : ∀ vs : List Value,
        Fragment.StartsApart (vs.flatMap fun v => [.text ",", .value v.resolve]) ∧
          Fragment.Legible d
            (vs.flatMap fun v => [.text ",", .value v.resolve]) from h vs
    intro vs
    induction vs with
    | nil => exact ⟨trivial, trivial⟩
    | cons v vs ih => exact ⟨hapart, hcomma, ih⟩

theorem legible_membership {sql operator : String} (hsql : d.Avoids sql)
    (hoperator : d.Avoids operator) (vs : List Value) :
    (Test.membership sql operator vs).Legible d := by
  have hopen : d.Avoids "(" := by cases d <;> decide
  have hclose : Fragment.Legible d [.text ")"] :=
    ⟨by cases d <;> decide, trivial⟩
  have hapart : Fragment.StartsApart [.text ")"] := ⟨by decide, Text.noDigitFirst_cons rfl []⟩
  refine ⟨?_, (legible_bindList vs).append hclose hapart⟩
  exact (d.avoids_append _ _).mpr ⟨(d.avoids_append _ _).mpr ⟨hsql, hoperator⟩, hopen⟩

/-- The words that the SQL of tests is written with have no lead. -/
theorem avoids_words (d : Dialect) : ∀ w ∈ [" IS NULL", " IS NOT NULL", " BETWEEN ", " AND ",
    "UPPER(", ") LIKE ", "(", " IS NULL OR LENGTH(", ")=0)", "LENGTH(", ")>0", "EXTRACT(",
    " FROM ", ")", "=", " IN ", " NOT IN ", " OR ", " WHERE "], d.Avoids w := by
  cases d <;> decide

theorem avoids_comparer (d : Dialect) (k : Comparer) : d.Avoids k.sql := by
  cases d <;> cases k <;> decide

theorem avoids_datePart (d : Dialect) (part : DatePart) : d.Avoids part.sql := by
  cases d <;> cases part <;> decide

/-- Every way to pass an access list is legible. -/
theorem legible_ways {sql : String} {owner : Option (String × Value)} (hsql : d.Avoids sql)
    (howner : ∀ o ∈ owner, d.Avoids o.1) (orNull : Bool) (vs : List Value) :
    ∀ way ∈ Test.ways owner orNull sql vs, way.Legible d := by
  have hw := avoids_words d
  intro way hway
  unfold Test.ways at hway
  rw [List.mem_append, List.mem_append] at hway
  rcases hway with (hway | hway) | hway
  · cases owner with
    | none => simp at hway
    | some o =>
      obtain rfl := List.mem_singleton.mp hway
      refine ⟨?_, Fragment.legible_bind _⟩
      exact (d.avoids_append _ _).mpr ⟨howner o rfl, hw _ (by simp)⟩
  · cases orNull with
    | false => simp at hway
    | true =>
      obtain rfl := List.mem_singleton.mp hway
      exact ⟨(d.avoids_append _ _).mpr ⟨hsql, hw _ (by simp)⟩, trivial⟩
  · obtain rfl := List.mem_singleton.mp hway
    exact legible_membership hsql (hw _ (by simp)) vs

/-- A test is legible when the columns and the SQL of the caller in it have no lead. -/
theorem legible_test? {c : Condition} {t : Test} (ht : c.test? column = some t)
    (hcolumn : ∀ name, d.Avoids name → d.Avoids (column name))
    (hs : ∀ s ∈ c.strings, d.Avoids s) : t.fragment.Legible d := by
  have hw := avoids_words d
  cases c with
  | any _ | unknown _ => simp [test?] at ht
  | raw sql =>
    obtain rfl := Option.some.inj ht
    have hsql : d.Avoids sql := hs sql (by simp [strings])
    exact ⟨by simp [hsql, hw], trivial⟩
  | compare name comparer value =>
    have hname : d.Avoids (column name) := hcolumn name (hs name (by simp [strings]))
    obtain rfl : comparisonTest (column name) comparer value = t := by simpa [test?] using ht
    unfold comparisonTest
    split
    · split
      · exact ⟨by simp [hname, hw], trivial⟩
      · exact ⟨by simp [hname, hw], trivial⟩
    · exact ⟨by simp [hname, avoids_comparer], Fragment.legible_bind _⟩
  | among name values =>
    have hname : d.Avoids (column name) := hcolumn name (hs name (by simp [strings]))
    obtain rfl := Option.some.inj ht
    exact legible_membership hname (hw _ (by simp)) values
  | notAmong name values =>
    have hname : d.Avoids (column name) := hcolumn name (hs name (by simp [strings]))
    obtain rfl := Option.some.inj ht
    exact legible_membership hname (hw _ (by simp)) values
  | between name low high =>
    have hname : d.Avoids (column name) := hcolumn name (hs name (by simp [strings]))
    obtain rfl := Option.some.inj ht
    refine ⟨by simp [hname, hw], (Fragment.legible_bind low).append ?_ ?_⟩
    · exact ⟨hw _ (by simp), Fragment.legible_bind high⟩
    · exact Fragment.startsApart_text rfl rfl _
  | search name term anchor =>
    have hname : d.Avoids (column name) := hcolumn name (hs name (by simp [strings]))
    obtain rfl := Option.some.inj ht
    exact ⟨by simp [hname, hw], Fragment.legible_bind _⟩
  | blank name =>
    have hname : d.Avoids (column name) := hcolumn name (hs name (by simp [strings]))
    obtain rfl := Option.some.inj ht
    exact ⟨by simp [hname, hw], trivial⟩
  | filled name =>
    have hname : d.Avoids (column name) := hcolumn name (hs name (by simp [strings]))
    obtain rfl := Option.some.inj ht
    exact ⟨by simp [hname, hw], trivial⟩
  | datePart part name comparer value =>
    have hname : d.Avoids (column name) := hcolumn name (hs name (by simp [strings]))
    obtain rfl := Option.some.inj ht
    refine ⟨?_, Fragment.legible_bind _⟩
    simp [hname, hw, avoids_comparer, avoids_datePart]
  | permit name values required owner =>
    have hname : d.Avoids (column name) := hcolumn name (hs name (by simp [strings]))
    have howner : d.Avoids (column ownerColumn) := hcolumn _ (by cases d <;> decide)
    obtain rfl := Option.some.inj ht
    -- The column of the owner is a name of its own, not one of the caller.
    have howners : ∀ o ∈ (owner.filter (!·.isNull)).map fun v => (column ownerColumn, v),
        d.Avoids o.1 := by
      intro o ho
      obtain ⟨v, -, rfl⟩ := Option.map_eq_some_iff.mp ho
      exact howner
    have hways := legible_ways hname howners required values
    rw [Test.fragment]
    split
    · rename_i way h
      exact hways way (by rw [h]; simp)
    · have hor : Fragment.StartsApart [.text " OR "] := Fragment.startsApart_text rfl rfl []
      have hclose : Fragment.StartsApart [.text ")"] := Fragment.startsApart_text rfl rfl []
      refine ⟨hw _ (by simp), ?_⟩
      exact (Fragment.legible_join (hw _ (by simp)) hor hways).append ⟨hw _ (by simp), trivial⟩
        hclose

/-- The SQL of a condition is legible when the columns and the SQL of the caller in it have no
lead. -/
theorem legible_fragment? (hcolumn : ∀ name, d.Avoids name → d.Avoids (column name))
    (c : Condition) (hs : ∀ s ∈ c.strings, d.Avoids s) :
    ∀ f, c.fragment? column = some f → f.Legible d := by
  have hw := avoids_words d
  induction c using Condition.induction with
  | test c hc =>
    intro f hf
    rw [fragment?_of_isTest column hc] at hf
    obtain ⟨t, ht, rfl⟩ := Option.map_eq_some_iff.mp hf
    exact legible_test? ht hcolumn hs
  | unknown kind =>
    intro f hf
    simp at hf
  | any cs ih =>
    intro f hf
    have hmembers : ∀ g ∈ cs.filterMap (fragment? column), g.Legible d := by
      intro g hg
      obtain ⟨c, hc, hg⟩ := List.mem_filterMap.mp hg
      exact ih c hc (fun s h => hs s (mem_allStrings hc h)) g hg
    have hor : Fragment.StartsApart [.text " OR "] := Fragment.startsApart_text rfl rfl []
    have hclose : Fragment.StartsApart [.text ")"] := Fragment.startsApart_text rfl rfl []
    rw [fragment?_any] at hf
    split at hf
    · simp at hf
    · obtain rfl := Option.some.inj hf
      refine ⟨hw _ (by simp), ?_⟩
      exact (Fragment.legible_join (hw _ (by simp)) hor hmembers).append
        ⟨hw _ (by simp), trivial⟩ hclose

/-- A filter is empty or starts with ` WHERE `. -/
theorem startsApart_filterFragment (cs : List Condition) :
    (filterFragment column cs).StartsApart := by
  rw [filterFragment_eq]
  cases cs.filterMap (fragment? column) with
  | nil => trivial
  | cons f fs => exact Fragment.startsApart_text rfl rfl _

/-- A filter is legible when the columns and the SQL of the caller in it have no lead. -/
theorem legible_filterFragment (hcolumn : ∀ name, d.Avoids name → d.Avoids (column name))
    (cs : List Condition) (hs : ∀ s ∈ allStrings cs, d.Avoids s) :
    (filterFragment column cs).Legible d := by
  have hw := avoids_words d
  have hmembers : ∀ f ∈ cs.filterMap (fragment? column), f.Legible d := by
    intro f hf
    obtain ⟨c, hc, hf⟩ := List.mem_filterMap.mp hf
    exact legible_fragment? hcolumn c (fun s h => hs s (mem_allStrings hc h)) f hf
  have hand : Fragment.StartsApart [.text " AND "] := Fragment.startsApart_text rfl rfl []
  rw [filterFragment_eq]
  split
  · trivial
  · exact ⟨hw _ (by simp), Fragment.legible_join (hw _ (by simp)) hand hmembers⟩

end Condition

end FilterSql
