import FilterSql.Proofs.Inline
import FilterSql.Proofs.Literal
import FilterSql.Proofs.Mention
import FilterSql.Proofs.Pruning
import FilterSql.Proofs.Rewriting
import Mathlib.Data.List.Forall2

/-!
# What stands in the places of values

A test has places for its values: the right side of a comparison, the bounds of a range, the list of
a membership (`Test.places`). `Text.elements` reads what is written in such a place as SQL does, as
elements with commas between them, where a comma in quotes or in parentheses is none. With
parameters the elements are placeholders. Inline they are the literals of the values, and an array
has an element for each value in it, on one level whatever its nesting (`Value.elements`); an empty
array has one too, without any text.

So a place is filled, and has no gap between its commas, except for empty arrays that are written
inline (`Settings.filled_compileAs`). A list without values is `NULL`, and no empty place.
-/

namespace FilterSql

namespace Text

/-! ## Lists in a text -/

/-- How deep in a list the reading of its text stands: in quotes or not, and in how many
parentheses. -/
structure Level where
  quoted : Bool
  depth : Nat
  deriving DecidableEq

namespace Level

/-- Outside quotes and parentheses. -/
def top : Level := ⟨false, 0⟩

def next (l : Level) (c : Char) : Level :=
  if c = '\'' then { l with quoted := !l.quoted }
  else if l.quoted then l
  else if c = '(' then { l with depth := l.depth + 1 }
  else if c = ')' then { l with depth := l.depth - 1 }
  else l

end Level

/-- The elements of a list of which some text has been read already, of its first element. -/
def elementsFrom (l : Level) (element : List Char) : List Char → List (List Char)
  | [] => [element]
  | c :: cs =>
    if c = ',' ∧ l = .top then element :: elementsFrom .top [] cs
    else elementsFrom (l.next c) (element ++ [c]) cs

/-- The elements of a list, which are what stands between its commas. -/
def elements (s : String) : List String :=
  (elementsFrom .top [] s.toList).map String.ofList

/-- No element ends in a part of a text, which is read from one level to another. -/
def Passes (l : Level) (cs : List Char) (l' : Level) : Prop :=
  ∀ element rest, elementsFrom l element (cs ++ rest) = elementsFrom l' (element ++ cs) rest

/-- Whether a text is an element wherever it stands in a list. -/
def IsElement (s : String) : Prop :=
  Passes .top s.toList .top

section Passes

variable {l l' l'' : Level}

theorem passes_nil (l : Level) : Passes l [] l := by
  intro element rest
  rw [List.nil_append, List.append_nil]

theorem Passes.cons {c : Char} {cs : List Char} (hc : ¬ (c = ',' ∧ l = .top))
    (h : Passes (l.next c) cs l') : Passes l (c :: cs) l' := by
  intro element rest
  rw [List.cons_append, elementsFrom, if_neg hc, h, List.append_assoc, List.singleton_append]

theorem Passes.append {cs ds : List Char} (h : Passes l cs l') (h' : Passes l' ds l'') :
    Passes l (cs ++ ds) l'' := by
  intro element rest
  rw [List.append_assoc, h, h', List.append_assoc]

/-- The characters that a list is read by. -/
def isDelimiter (c : Char) : Bool :=
  "',()".toList.contains c

theorem isDelimiter_of_isNumeric {c : Char} (h : isNumeric c) : isDelimiter c = false := by
  have hnone : "',()".toList.all (!isNumeric ·) := by decide
  rw [Bool.eq_false_iff]
  intro hc
  have hc := List.all_eq_true.mp hnone c (List.contains_iff_mem.mp hc)
  rw [h] at hc
  cases hc

/-- Text without delimiters does not change the level. -/
theorem passes_of_not_isDelimiter {cs : List Char} (h : ∀ c ∈ cs, isDelimiter c = false) :
    Passes l cs l := by
  induction cs with
  | nil => exact passes_nil l
  | cons c cs ih =>
    obtain ⟨hc, hcs⟩ := List.forall_mem_cons.mp h
    have hne : ∀ d, isDelimiter d → c ≠ d := by
      rintro d hd rfl
      rw [hc] at hd
      cases hd
    have hnext : l.next c = l := by
      simp [Level.next, hne '\'' (by decide), hne '(' (by decide), hne ')' (by decide)]
    refine .cons (fun hcomma => hne ',' (by decide) hcomma.1) ?_
    rw [hnext]
    exact ih hcs

theorem isElement_of_all {s : String} (h : s.toList.all (!isDelimiter ·)) : IsElement s := by
  refine passes_of_not_isDelimiter fun c hc => ?_
  simpa using List.all_eq_true.mp h c hc

theorem isElement_of_isNumeric {s : String} (h : ∀ c ∈ s.toList, isNumeric c) : IsElement s :=
  passes_of_not_isDelimiter fun c hc => isDelimiter_of_isNumeric (h c hc)

/-- A quoted text with its quotes doubled is read in quotes up to its end. -/
theorem passes_double (n : Nat) (cs : List Char) :
    Passes ⟨true, n⟩ (double '\'' cs) ⟨true, n⟩ := by
  have hquoted : ∀ c, ¬ (c = ',' ∧ (⟨true, n⟩ : Level) = .top) := by
    rintro c ⟨-, hl⟩
    cases hl
  induction cs with
  | nil => exact passes_nil _
  | cons c cs ih =>
    rw [double]
    by_cases hc : c = '\''
    · -- The first of the two quotes leaves the quotes, the second enters them again.
      have hquote : ¬ ('\'' = ',' ∧ (⟨false, n⟩ : Level) = .top) := by simp
      rw [if_pos hc]
      exact .cons (by simp) (.cons hquote ih)
    · have hnext : (⟨true, n⟩ : Level).next c = ⟨true, n⟩ := by simp [Level.next, hc]
      rw [if_neg hc]
      refine .cons (hquoted c) ?_
      rw [hnext]
      exact ih

theorem passes_enclose (hl : l.quoted = false) (cs : List Char) :
    Passes l (enclose '\'' cs) l := by
  obtain ⟨quoted, n⟩ := l
  obtain rfl : quoted = false := hl
  have hclosing : Passes ⟨true, n⟩ ['\''] ⟨false, n⟩ := .cons (by simp) (passes_nil _)
  exact .cons (by simp) ((passes_double n cs).append hclosing)

/-- Parentheses are left on the level on which they are entered. -/
theorem Passes.parenthesized {n : Nat} {cs : List Char}
    (h : Passes ⟨false, n + 1⟩ cs ⟨false, n + 1⟩) :
    Passes ⟨false, n⟩ ('(' :: (cs ++ [')'])) ⟨false, n⟩ := by
  have hclosing : Passes ⟨false, n + 1⟩ [')'] ⟨false, n⟩ := .cons (by simp) (passes_nil _)
  exact .cons (by simp) (h.append hclosing)

end Passes

theorem elements_of_isElement {s : String} (h : IsElement s) : elements s = [s] := by
  have hread := h [] []
  rw [List.append_nil] at hread
  rw [elements, hread, elementsFrom]
  simp

/-- Elements with commas between them are read as these. -/
theorem elements_intercalate {ss : List String} (hne : ss ≠ []) (h : ∀ s ∈ ss, IsElement s) :
    elements (String.intercalate "," ss) = ss := by
  induction ss with
  | nil => exact absurd rfl hne
  | cons s ss ih =>
    obtain ⟨hs, hss⟩ := List.forall_mem_cons.mp h
    cases ss with
    | nil => rw [String.intercalate_singleton, elements_of_isElement hs]
    | cons t ts =>
      have hrest := ih (by simp) hss
      rw [elements] at hrest ⊢
      rw [toList_intercalate_cons_cons, hs, elementsFrom, if_pos ⟨rfl, rfl⟩, List.map_cons, hrest,
        List.nil_append, String.ofList_toList]

/-- Joining parts that are joined themselves is joining all that is in them. -/
theorem intercalate_flatMap {α : Type} {f : α → List String} {g : α → String} {l : List α}
    (hne : ∀ a ∈ l, f a ≠ []) (h : ∀ a ∈ l, String.intercalate "," (f a) = g a) :
    String.intercalate "," (l.flatMap f) = String.intercalate "," (l.map g) := by
  induction l with
  | nil => rfl
  | cons a l ih =>
    obtain ⟨ha, hl⟩ := List.forall_mem_cons.mp h
    obtain ⟨hnea, hnel⟩ := List.forall_mem_cons.mp hne
    cases l with
    | nil => simpa using ha
    | cons b l =>
      have hrest : (b :: l).flatMap f ≠ [] := by
        simp [hnel b (by simp)]
      rw [List.flatMap_cons, String.intercalate_append_of_ne_nil hnea hrest, ih hnel hl, ha,
        List.map_cons, List.map_cons, List.map_cons, String.intercalate_cons_cons]

/-- A comma in quotes or parentheses is in an element, and between two commas is an empty one. -/
example : elements "F(a, ')'),'it''s, so',,1" = ["F(a, ')')", "'it''s, so'", "", "1"] := by
  decide +kernel

end Text

/-- A number has digits, or is a word. -/
theorem Binary64.text_ne_empty (x : Binary64) : x.text ≠ "" := by
  have hdigits : ∀ d : Decimal, d.positional ≠ "" := by
    intro d
    unfold Decimal.positional
    split
    · simp
    · simp only
      split <;> simp
  unfold Binary64.text
  split
  · decide
  · split <;> simp [hdigits]

theorem toString_ne_empty (n : Int) : toString n ≠ "" := by
  cases n with
  | ofNat n =>
    have htext : toString (Int.ofNat n) = toString n := rfl
    simp [htext, -Int.ofNat_eq_natCast]
  | negSucc n =>
    have htext : toString (Int.negSucc n) = "-" ++ toString (n + 1) := rfl
    simp [htext]

/-! ## Elements of a literal -/

/-- A quoted text is an element, whatever it holds. -/
theorem isElement_quoteString (s : String) : Text.IsElement (quoteString s) := by
  rw [Text.IsElement, quoteString, String.toList_ofList]
  exact Text.passes_enclose rfl s.toList

theorem quoteString_ne_empty (s : String) : quoteString s ≠ "" := by
  simp [quoteString, Text.enclose]

/-- A moment is an element also where its format comes after a comma. -/
theorem Dialect.isElement_dateLiteral (d : Dialect) (s : String) :
    Text.IsElement (d.dateLiteral (quoteString s)) := by
  have hmoment : ∀ {l : Text.Level}, l.quoted = false →
      Text.Passes l (Text.enclose '\'' s.toList) l := fun hl => Text.passes_enclose hl s.toList
  cases d with
  | postgres =>
    have hword : Text.IsElement "TIMESTAMP " := Text.isElement_of_all (by decide)
    have htext : (dateLiteral .postgres (quoteString s)).toList =
        "TIMESTAMP ".toList ++ Text.enclose '\'' s.toList := by
      simp [dateLiteral, quoteString]
    rw [Text.IsElement, htext]
    exact hword.append (hmoment rfl)
  | oracle =>
    let format := "YYYY-MM-DD HH24:MI:SS".toList
    have hword : Text.IsElement "TO_DATE" := Text.isElement_of_all (by decide)
    -- The comma stands in parentheses, and so ends no element.
    have hformat : Text.Passes ⟨false, 1⟩ (',' :: ' ' :: Text.enclose '\'' format) ⟨false, 1⟩ :=
      .cons (by simp [Text.Level.top]) (.cons (by simp) (Text.passes_enclose rfl format))
    have htext : (dateLiteral .oracle (quoteString s)).toList = "TO_DATE".toList ++
        '(' :: (Text.enclose '\'' s.toList ++ ',' :: ' ' :: Text.enclose '\'' format ++ [')']) := by
      simp [dateLiteral, quoteString, format, Text.enclose, Text.double]
    rw [Text.IsElement, htext]
    exact hword.append ((hmoment rfl).append hformat).parenthesized

theorem Dialect.dateLiteral_ne_empty (d : Dialect) (s : String) : d.dateLiteral s ≠ "" := by
  cases d <;> simp [dateLiteral]

namespace Value

mutual

/-- The elements of the literal of a value. An array has those of its items, and an empty one where
it has no items. -/
def elements (d : Dialect) : Value → List String
  | array [] => [""]
  | array items => elementsAll d items
  | deferred (deferred _) => ["NULL"]
  | deferred v => elements d v
  | v => [v.literal d]

def elementsAll (d : Dialect) : List Value → List String
  | [] => []
  | v :: vs => elements d v ++ elementsAll d vs

end

mutual

/-- Whether there is an array without items in a value. -/
def hasEmptyArray : Value → Bool
  | array items => items.isEmpty || anyHasEmptyArray items
  | deferred (deferred _) => false
  | deferred v => hasEmptyArray v
  | _ => false

/-- Whether there is an array without items in one of the values. -/
def anyHasEmptyArray : List Value → Bool
  | [] => false
  | v :: vs => hasEmptyArray v || anyHasEmptyArray vs

end

/-- Whether a value is an array without items, or an array of one such value. -/
def isHollow : Value → Bool
  | array [] => true
  | array [v] => isHollow v
  | deferred (deferred _) => false
  | deferred v => isHollow v
  | _ => false

/-- Whether a value is neither an array nor deferred. -/
def isLeaf : Value → Bool
  | array _ | deferred _ => false
  | _ => true

theorem elementsAll_eq_flatMap (d : Dialect) (vs : List Value) :
    elementsAll d vs = vs.flatMap (elements d) := by
  induction vs with
  | nil => rfl
  | cons v vs ih => rw [elementsAll, ih, List.flatMap_cons]

theorem anyHasEmptyArray_eq_any (vs : List Value) : anyHasEmptyArray vs = vs.any hasEmptyArray := by
  induction vs with
  | nil => rfl
  | cons v vs ih => rw [anyHasEmptyArray, ih, List.any_cons]

/-- To show a property of every value it is enough to show it in each case that `elements` tells
apart. -/
theorem induction_elements {motive : Value → Prop} (leaf : ∀ v, v.isLeaf → motive v)
    (empty : motive (array []))
    (items : ∀ v vs, (∀ w ∈ v :: vs, motive w) → motive (array (v :: vs)))
    (chain : ∀ v, motive (deferred (deferred v)))
    (known : ∀ v, v.isDeferred = false → motive v → motive (deferred v)) : ∀ v, motive v
  | .array [] => empty
  | .array (v :: vs) => items v vs fun w _ => induction_elements leaf empty items chain known w
  | .deferred v => by
    have hv := induction_elements leaf empty items chain known v
    cases v with
    | deferred v => exact chain v
    | _ => exact known _ rfl hv
  | .null | .bool _ | .int _ | .float _ | .text _ | .dateTime _ | .json _ => leaf _ rfl

theorem elements_of_isLeaf (d : Dialect) {v : Value} (h : v.isLeaf) :
    v.elements d = [v.literal d] := by
  cases v with
  | array _ | deferred _ => exact absurd h Bool.false_ne_true
  | _ => rfl

theorem elements_array_cons (d : Dialect) (v : Value) (vs : List Value) :
    (array (v :: vs)).elements d = (v :: vs).flatMap (elements d) := by
  rw [elements, elementsAll_eq_flatMap]
  simp

theorem elements_deferred (d : Dialect) {v : Value} (h : v.isDeferred = false) :
    (deferred v).elements d = v.elements d := by
  cases v with
  | deferred _ => simp [isDeferred] at h
  | _ => rfl

theorem elements_ne_nil (d : Dialect) (v : Value) : v.elements d ≠ [] := by
  induction v using induction_elements with
  | leaf v hv => simp [elements_of_isLeaf d hv]
  | empty => simp [elements]
  | items v vs ih =>
    have hv := ih v (by simp)
    simp [elements_array_cons, hv]
  | chain v => simp [elements]
  | known v hv ih => rwa [elements_deferred d hv]

theorem literal_deferred (d : Dialect) {v : Value} (h : v.isDeferred = false) :
    (deferred v).literal d = v.literal d := by
  cases v with
  | deferred _ => simp [isDeferred] at h
  | _ => rfl

/-- A literal has its elements with commas between them. -/
theorem intercalate_elements (d : Dialect) (v : Value) :
    String.intercalate "," (v.elements d) = v.literal d := by
  induction v using induction_elements with
  | leaf v hv => rw [elements_of_isLeaf d hv, String.intercalate_singleton]
  | empty => rfl
  | items v vs ih =>
    rw [elements_array_cons, literal, literals_eq_map]
    exact Text.intercalate_flatMap (fun w _ => w.elements_ne_nil d) ih
  | chain v => rfl
  | known v hv ih => rw [elements_deferred d hv, literal_deferred d hv, ih]

/-- The literal of a leaf is an element, and not an empty one. -/
theorem isElement_of_isLeaf (d : Dialect) {v : Value} (h : v.isLeaf) :
    Text.IsElement (v.literal d) ∧ v.literal d ≠ "" := by
  cases v with
  | null =>
    rw [literal]
    exact ⟨Text.isElement_of_all (by decide), by decide⟩
  | bool b =>
    rw [literal]
    cases d <;> cases b <;> exact ⟨Text.isElement_of_all (by decide), by decide⟩
  | int n =>
    exact ⟨Text.isElement_of_isNumeric fun _ => Text.isNumeric_of_mem_toString_int,
      toString_ne_empty n.toInt⟩
  | float x =>
    have hwords : ∀ w ∈ ["NaN", "inf", "-inf"], w.toList.all (!Text.isDelimiter ·) := by decide
    refine ⟨?_, x.text_ne_empty⟩
    rcases Text.text_binary_cases x with hx | hx
    · exact Text.isElement_of_isNumeric hx
    · exact Text.isElement_of_all (hwords _ hx)
  | text s => exact ⟨isElement_quoteString s, quoteString_ne_empty s⟩
  | dateTime t => exact ⟨d.isElement_dateLiteral t.text, d.dateLiteral_ne_empty _⟩
  | json document =>
    exact ⟨isElement_quoteString document.compact, quoteString_ne_empty document.compact⟩
  | array _ | deferred _ => exact absurd h Bool.false_ne_true

theorem isElement_of_mem_elements (d : Dialect) (v : Value) :
    ∀ s ∈ v.elements d, Text.IsElement s := by
  induction v using induction_elements with
  | leaf v hv => simpa [elements_of_isLeaf d hv] using (isElement_of_isLeaf d hv).1
  | empty =>
    have hempty : Text.IsElement "" := Text.passes_nil .top
    simpa [elements] using hempty
  | items v vs ih =>
    intro s hs
    rw [elements_array_cons] at hs
    obtain ⟨w, hw, hs⟩ := List.mem_flatMap.mp hs
    exact ih w hw s hs
  | chain v => simpa [elements] using Text.isElement_of_all (by decide)
  | known v hv ih => rwa [elements_deferred d hv]

theorem hasEmptyArray_of_isLeaf {v : Value} (h : v.isLeaf) : v.hasEmptyArray = false := by
  cases v with
  | array _ | deferred _ => exact absurd h Bool.false_ne_true
  | _ => rfl

theorem hasEmptyArray_deferred {v : Value} (h : v.isDeferred = false) :
    (deferred v).hasEmptyArray = v.hasEmptyArray := by
  cases v with
  | deferred _ => simp [isDeferred] at h
  | _ => rfl

/-- A literal has an empty element for an array without items, and for nothing else. -/
theorem empty_mem_elements_iff (d : Dialect) (v : Value) :
    "" ∈ v.elements d ↔ v.hasEmptyArray := by
  induction v using induction_elements with
  | leaf v hv =>
    have hne := (isElement_of_isLeaf d hv).2
    rw [elements_of_isLeaf d hv, hasEmptyArray_of_isLeaf hv, List.mem_singleton]
    exact iff_of_false hne.symm Bool.false_ne_true
  | empty => simp [elements, hasEmptyArray]
  | items v vs ih =>
    have hitems : (array (v :: vs)).hasEmptyArray = (v :: vs).any hasEmptyArray := by
      rw [hasEmptyArray, anyHasEmptyArray_eq_any, List.isEmpty_cons, Bool.false_or]
    rw [elements_array_cons, hitems, List.mem_flatMap, List.any_eq_true]
    exact exists_congr fun w => and_congr_right fun hw => ih w hw
  | chain v => simp [elements, hasEmptyArray]
  | known v hv ih => rw [elements_deferred d hv, hasEmptyArray_deferred hv, ih]

theorem isHollow_deferred {v : Value} (h : v.isDeferred = false) :
    (deferred v).isHollow = v.isHollow := by
  cases v with
  | deferred _ => simp [isDeferred] at h
  | _ => rw [isHollow]; simp

/-- A literal is empty, and so has a single empty element, exactly for a hollow value. -/
theorem elements_eq_singleton_iff (d : Dialect) (v : Value) :
    v.elements d = [""] ↔ v.isHollow := by
  induction v using induction_elements with
  | leaf v hv =>
    have hne := (isElement_of_isLeaf d hv).2
    have hhollow : v.isHollow = false := by
      cases v with
      | array _ | deferred _ => exact absurd hv Bool.false_ne_true
      | _ => rw [isHollow] <;> simp
    simp [elements_of_isLeaf d hv, hne, hhollow]
  | empty => simp [elements, isHollow]
  | items v vs ih =>
    cases vs with
    | nil => simpa [elements_array_cons, isHollow] using ih
    | cons w vs =>
      -- Each of the two values has an element.
      have hv := List.length_pos_iff.mpr (v.elements_ne_nil d)
      have hw := List.length_pos_iff.mpr (w.elements_ne_nil d)
      refine iff_of_false (fun h => ?_) (by simp [isHollow])
      have hlength := congrArg List.length h
      simp only [elements_array_cons, List.flatMap_cons, List.length_append,
        List.length_singleton] at hlength
      omega
  | chain v => simp [elements, isHollow]
  | known v hv ih => rw [elements_deferred d hv, isHollow_deferred hv, ih]

end Value

/-! ## Places of values -/

/-- What is known of a text in the place of some values. -/
structure FillsPlace (mode : BindMode) (values : List Value) (s : String) : Prop where
  /-- The place is empty only inline, where the one value for it is hollow. -/
  eq_empty_iff : s = "" ↔ mode = .inline ∧ ∃ v, values = [v] ∧ v.isHollow
  /-- An element of the place is empty only inline, where a value for it has an empty array. -/
  empty_mem_iff : "" ∈ Text.elements s ↔ mode = .inline ∧ ∃ v ∈ values, v.hasEmptyArray

namespace Fragment

variable (d : Dialect) (mode : BindMode) (n : Nat)

/-- The elements that are written for a list of values. -/
def listElements : List Value → List String
  | [] => ["NULL"]
  | v :: vs =>
    match mode with
    | .parameterized => (List.range' (n + 1) (vs.length + 1)).map d.placeholder
    | .inline => (v :: vs).flatMap (Value.elements d)

/-- Values of which there are some are bound one by one, with commas between them. -/
theorem bindList_cons (v : Value) (vs : List Value) :
    bindList (v :: vs) = join "," ((v :: vs).map bind) := by
  induction vs generalizing v with
  | nil => rfl
  | cons w vs ih =>
    rw [List.map_cons, List.map_cons, join_cons_cons, ← List.map_cons, ← ih w]
    rfl

theorem sqlEach_bind_parameterized (vs : List Value) :
    sqlEach d .parameterized n (vs.map bind) =
      (List.range' (n + 1) vs.length).map d.placeholder := by
  induction vs generalizing n with
  | nil => rfl
  | cons v vs ih =>
    rw [List.map_cons, sqlEach, ih]
    simp [bind, sql, List.range'_succ]

theorem sqlEach_bind_inline (vs : List Value) :
    sqlEach d .inline n (vs.map bind) = vs.map (Value.literal d) := by
  induction vs generalizing n with
  | nil => rfl
  | cons v vs ih =>
    have hv : v.resolve.literal d = v.literal d := by
      rw [← Value.literal_evaluated, Value.evaluated_resolve, Value.literal_evaluated]
    rw [List.map_cons, sqlEach, ih]
    simp [bind, sql, hv]

theorem sql_bindList (vs : List Value) :
    (bindList vs).sql d mode n = String.intercalate "," (listElements d mode n vs) := by
  cases vs with
  | nil => simp [bindList, sql, listElements]
  | cons v vs =>
    rw [bindList_cons, sql_join]
    cases mode with
    | parameterized => rw [sqlEach_bind_parameterized]; rfl
    | inline =>
      rw [sqlEach_bind_inline]
      exact (Text.intercalate_flatMap (fun w _ => w.elements_ne_nil d)
        fun w _ => w.intercalate_elements d).symm

theorem isElement_of_mem_listElements (vs : List Value) :
    ∀ s ∈ listElements d mode n vs, Text.IsElement s := by
  have hplaceholder : ∀ k, Text.IsElement (d.placeholder k) := by
    intro k
    have hlead : Text.isDelimiter d.placeholderLead = false := by cases d <;> decide
    have hdigits : ∀ c ∈ (toString k).toList, Text.isDelimiter c = false := fun c hc =>
      Text.isDelimiter_of_isNumeric (Text.isNumeric_of_mem_toString hc)
    refine Text.passes_of_not_isDelimiter ?_
    simpa [Dialect.placeholder, hlead] using hdigits
  cases vs with
  | nil => simpa [listElements] using Text.isElement_of_all (by decide)
  | cons v vs =>
    cases mode with
    | parameterized =>
      intro s hs
      obtain ⟨k, -, rfl⟩ := List.mem_map.mp hs
      exact hplaceholder k
    | inline =>
      intro s hs
      obtain ⟨w, -, hs⟩ := List.mem_flatMap.mp hs
      exact w.isElement_of_mem_elements d s hs

theorem listElements_ne_nil (vs : List Value) : listElements d mode n vs ≠ [] := by
  cases vs with
  | nil => simp [listElements]
  | cons v vs =>
    cases mode with
    | parameterized => simp [listElements]
    | inline => simp [listElements, v.elements_ne_nil d]

/-- What is written for values is read as one element after the other. -/
theorem elements_sql_bindList (vs : List Value) :
    Text.elements ((bindList vs).sql d mode n) = listElements d mode n vs := by
  rw [sql_bindList]
  exact Text.elements_intercalate (listElements_ne_nil d mode n vs)
    (isElement_of_mem_listElements d mode n vs)

/-- The elements for values are a single empty one exactly inline, for a hollow value. -/
theorem listElements_eq_singleton_iff (vs : List Value) :
    listElements d mode n vs = [""] ↔ mode = .inline ∧ ∃ v, vs = [v] ∧ v.isHollow := by
  cases vs with
  | nil => simp [listElements]
  | cons v vs =>
    cases mode with
    | parameterized => simp [listElements, List.range'_succ, Dialect.placeholder]
    | inline =>
      -- The values are written as an array of them is.
      rw [listElements, ← Value.elements_array_cons, Value.elements_eq_singleton_iff]
      cases vs with
      | nil => simp [Value.isHollow]
      | cons w ws => simp [Value.isHollow]

/-- What is written for values fills their place, up to empty arrays. -/
theorem fillsPlace_sql_bindList (vs : List Value) :
    FillsPlace mode vs ((bindList vs).sql d mode n) := by
  constructor
  · rw [← listElements_eq_singleton_iff d mode n vs]
    constructor
    · intro h
      rw [← elements_sql_bindList, h]
      rfl
    · intro h
      rw [sql_bindList, h, String.intercalate_singleton]
  · rw [elements_sql_bindList]
    cases vs with
    | nil => simp [listElements]
    | cons v vs =>
      cases mode with
      | parameterized => simp [listElements, Dialect.placeholder]
      | inline => simp [listElements, Value.empty_mem_elements_iff]

theorem forall₂_fillsPlace (places : List (List Value)) :
    List.Forall₂ (FillsPlace mode) places (sqlEach d mode n (places.map bindList)) := by
  induction places generalizing n with
  | nil => exact .nil
  | cons vs places ih => exact .cons (fillsPlace_sql_bindList d mode n vs) (ih _)

end Fragment

namespace Test

/-- The values of a test, by the places that it has for them. -/
def places : Test → List (List Value)
  | isNull _ | notNull _ | blank _ | filled _ | raw _ => []
  | compare _ _ value | datePart _ _ _ value => [[value]]
  | among _ values | notAmong _ values => [values]
  | between _ low high => [[low], [high]]
  | like _ pattern => [[.text pattern]]
  | permit owner _ _ values => (owner.toList.map fun o => [o.2]) ++ [values]

/-- The SQL of a test around the places of its values: before the first, and after each. -/
def frame : Test → String × List String
  | isNull column => (column ++ " IS NULL", [])
  | notNull column => (column ++ " IS NOT NULL", [])
  | compare column comparer _ => (column ++ comparer.sql, [""])
  | among column _ => (column ++ " IN (", [")"])
  | notAmong column _ => (column ++ " NOT IN (", [")"])
  | between column _ _ => (column ++ " BETWEEN ", [" AND ", ""])
  | like column _ => ("UPPER(" ++ column ++ ") LIKE ", [""])
  | blank column => ("(" ++ column ++ " IS NULL OR LENGTH(" ++ column ++ ")=0)", [])
  | filled column => ("LENGTH(" ++ column ++ ")>0", [])
  | datePart part column comparer _ =>
    ("EXTRACT(" ++ part.sql ++ " FROM " ++ column ++ ")" ++ comparer.sql, [""])
  | permit none false column _ => (column ++ " IN (", [")"])
  | permit none true column _ => ("(" ++ column ++ " IS NULL OR " ++ column ++ " IN (", ["))"])
  | permit (some (owner, _)) false column _ =>
    ("(" ++ owner ++ "=", [" OR " ++ column ++ " IN (", "))"])
  | permit (some (owner, _)) true column _ =>
    ("(" ++ owner ++ "=", [" OR " ++ column ++ " IS NULL OR " ++ column ++ " IN (", "))"])
  | raw sql => ("(" ++ sql ++ ")", [])

/-- The SQL of a test has its values in their places. -/
theorem sql_eq_weave (t : Test) (d : Dialect) (mode : BindMode) (n : Nat) :
    t.fragment.sql d mode n =
      Text.weave t.frame.1 (Fragment.sqlEach d mode n (t.places.map Fragment.bindList))
        t.frame.2 := by
  have hbind : ∀ v, Fragment.bind v = Fragment.bindList [v] := fun _ => rfl
  have hnull : ∀ s, " IS NULL" ++ (" OR " ++ s) = " IS NULL OR " ++ s := by
    intro s
    rw [← String.append_assoc]
    rfl
  cases t with
  | permit owner orNull column values =>
    cases owner <;> cases orNull <;>
      simp [fragment, frame, places, ways, membership, Text.weave, Fragment.sql, Fragment.sqlEach,
        Fragment.sql_append, Fragment.join, hbind, hnull, String.append_assoc]
  | _ =>
    simp [fragment, frame, places, membership, Text.weave, Fragment.sql, Fragment.sqlEach,
      Fragment.sql_append, hbind, String.append_assoc]

end Test

/-! ## Statements -/

namespace Fragment

/-- A part of a fragment has its text in that of the fragment, after some parameters. -/
theorem exists_sql_of_infix {f g : Fragment} (h : f <:+: g) (d : Dialect) (mode : BindMode)
    (n : Nat) :
    ∃ before m after, g.sql d mode n = before ++ f.sql d mode m ++ after := by
  obtain ⟨f₁, f₂, rfl⟩ := h
  rw [sql_append, sql_append]
  exact ⟨_, _, _, rfl⟩

theorem infix_join (separator : String) {f : Fragment} {fs : List Fragment} (h : f ∈ fs) :
    f <:+: join separator fs := by
  induction fs with
  | nil => simp at h
  | cons g fs ih =>
    cases fs with
    | nil =>
      obtain rfl : f = g := by simpa using h
      exact List.infix_refl f
    | cons g' gs =>
      rw [join_cons_cons]
      rcases List.mem_cons.mp h with rfl | h
      · exact (List.prefix_append f _).isInfix
      · exact (ih h).trans ((List.suffix_cons _ _).trans (List.suffix_append g _)).isInfix

end Fragment

namespace Condition

variable (column : String → String)

/-- The SQL of each test is part of that of the condition, or of the conditions, that it is in. -/
theorem exists_infix_fragment? :
    (∀ c : Condition, ∀ t ∈ c.tests, ∃ test f, t.test? column = some test ∧
      c.fragment? column = some f ∧ test.fragment <:+: f) ∧
    ∀ cs, ∀ t ∈ testsAll cs, ∃ test, t.test? column = some test ∧
      ∃ f ∈ cs.filterMap (fragment? column), test.fragment <:+: f := by
  apply induction_both
  case test =>
    intro c hc t ht
    obtain rfl : t = c := by simpa [tests_of_isTest hc] using ht
    obtain ⟨test, htest⟩ := Option.isSome_iff_exists.mp (isSome_test? column hc)
    exact ⟨test, test.fragment, htest, by rw [fragment?_of_isTest column hc, htest]; rfl,
      List.infix_refl _⟩
  case unknown => exact fun kind t ht => absurd ht List.not_mem_nil
  case any =>
    intro cs ih t ht
    obtain ⟨test, htest, f, hf, hinfix⟩ := ih t ht
    rw [fragment?_any]
    cases hfs : cs.filterMap (fragment? column) with
    | nil => simp [hfs] at hf
    | cons g gs =>
      refine ⟨test, _, htest, rfl, hinfix.trans ((Fragment.infix_join " OR " (hfs ▸ hf)).trans ?_)⟩
      exact ((List.prefix_append _ _).isInfix).trans (List.suffix_cons _ _).isInfix
  case nil => exact fun t ht => absurd ht List.not_mem_nil
  case cons =>
    intro c cs hc hcs t ht
    rcases List.mem_append.mp ht with ht | ht
    · obtain ⟨test, f, htest, hf, hinfix⟩ := hc t ht
      exact ⟨test, htest, f, List.mem_filterMap.mpr ⟨c, List.mem_cons_self, hf⟩, hinfix⟩
    · obtain ⟨test, htest, f, hf, hinfix⟩ := hcs t ht
      obtain ⟨c', hc', hf⟩ := List.mem_filterMap.mp hf
      exact ⟨test, htest, f, List.mem_filterMap.mpr ⟨c', List.mem_cons_of_mem c hc', hf⟩, hinfix⟩

/-- The SQL of each test is part of that of the filter. -/
theorem exists_infix_filterFragment {cs : List Condition} {t : Condition} (ht : t ∈ testsAll cs) :
    ∃ test, t.test? column = some test ∧ test.fragment <:+: filterFragment column cs := by
  obtain ⟨test, htest, f, hf, hinfix⟩ := (exists_infix_fragment? column).2 cs t ht
  refine ⟨test, htest, hinfix.trans ?_⟩
  rw [filterFragment_eq]
  cases hfs : cs.filterMap (fragment? column) with
  | nil => simp [hfs] at hf
  | cons g gs => exact (Fragment.infix_join " AND " (hfs ▸ hf)).trans (List.suffix_cons _ _).isInfix

end Condition

namespace Request

/-- The draft of a request that has the filter is made of a fragment with the filter in it. -/
theorem exists_infix_draftUnder {r : Request} (hr : r.isFiltered) (names : Names) (d : Descriptor) :
    ∃ f, r.draftUnder names d = r.draftOf d f ∧
      Condition.filterFragment names.column d.conditions <:+: f := by
  have hcons : ∀ (p : Piece) (f : Fragment), f <:+: p :: f := fun p f =>
    (List.suffix_cons p f).isInfix
  cases r with
  | insert _ | drop | truncate => exact absurd hr Bool.false_ne_true
  | template text => exact ⟨_, rfl, List.infix_refl _⟩
  | select _ | count | remove | aggregate _ _ => exact ⟨_, rfl, hcons _ _⟩
  | update _ => exact ⟨_, rfl, (List.suffix_append _ _).isInfix.trans (hcons _ _)⟩
  | group _ _ => exact ⟨_, rfl, (List.prefix_append _ _).isInfix.trans (hcons _ _)⟩

end Request

namespace Settings

variable {settings : Settings} {d : Descriptor} {exec : Exec} {s : Session} {st : Statement}

/-- The places of the values of all tests of a filter are filled in the text of its statement, up to
empty arrays that are written inline. The text is what the request makes of a body, which a raw
query puts into its template, with the order and the returned columns after it. In the body
stands each test, with texts in its places that fill these. -/
theorem filled_compileAs (h : (settings.compileAs d exec).outcome s = .ok st)
    (hfiltered : exec.isFiltered) :
    ∃ r body tail, d.request settings.mode exec = .ok r ∧ st.text = r.place body ++ tail ∧
      ∀ c ∈ Condition.testsAll d.conditions, ∃ t before fills after,
        c.test? (s.column d.languageCode) = some t ∧
        body = before ++ Text.weave t.frame.1 fills t.frame.2 ++ after ∧
        List.Forall₂ (FillsPlace settings.mode) t.places fills := by
  rw [outcome_compileAs] at h
  obtain ⟨r, hr, rfl⟩ := compileUnder_eq_ok h
  have hfilter : r.isFiltered := Request.isFiltered_eq hr ▸ hfiltered
  obtain ⟨f, hdraft, hinfix⟩ :=
    Request.exists_infix_draftUnder hfilter (s.names d.languageCode) d
  obtain ⟨tail, htail⟩ : ∃ tail, ((d.planUnder (s.names d.languageCode) exec r).statement
      settings.dialect settings.mode).text =
        r.place (f.sql settings.dialect settings.mode (r.ownParams d).length) ++ tail := by
    rw [Descriptor.text_planUnder, hdraft, r.text_draftOf, String.append_assoc,
      String.append_assoc]
    exact ⟨_, rfl⟩
  refine ⟨r, _, tail, hr, htail, fun c hc => ?_⟩
  obtain ⟨t, ht, htest⟩ := Condition.exists_infix_filterFragment (s.column d.languageCode) hc
  obtain ⟨before, n, after, htext⟩ := Fragment.exists_sql_of_infix (htest.trans hinfix)
    settings.dialect settings.mode (r.ownParams d).length
  rw [t.sql_eq_weave] at htext
  exact ⟨t, before, _, after, ht, htext,
    Fragment.forall₂_fillsPlace settings.dialect settings.mode n t.places⟩

/-- A filter of one test. -/
private def sampleFilter (test : Condition) : Descriptor where
  table := "t"
  conditions := [test]

/-- A membership with arrays in arrays. -/
private def sampleNested : Condition :=
  .among "a" [.array [.bool true, .array [.null]], .text "b"]

/-- Arrays in arrays are written as one list without gaps. -/
theorem filled_compileAs_nested :
    ∃ st, (compileAs { mode := .inline } (sampleFilter sampleNested) .find).outcome {} = .ok st ∧
      ∃ before list after, st.text = before ++ ("\"a\" IN (" ++ list ++ ")") ++ after ∧
        list ≠ "" ∧ "" ∉ Text.elements list := by
  obtain ⟨st, h⟩ : ∃ st,
      (compileAs { mode := .inline } (sampleFilter sampleNested) .find).outcome {} = .ok st := by
    rw [outcome_compileAs]
    exact ⟨_, rfl⟩
  obtain ⟨r, body, tail, hr, htext, htests⟩ := filled_compileAs h rfl
  obtain rfl : Request.select [] = r := Except.ok.inj hr
  have hmem : sampleNested ∈ Condition.testsAll (sampleFilter sampleNested).conditions := by
    simp [sampleFilter, sampleNested, Condition.testsAll, Condition.tests]
  obtain ⟨t, before, fills, after, ht, hbody, hfills⟩ := htests sampleNested hmem
  obtain rfl : Test.among "\"a\"" [.array [.bool true, .array [.null]], .text "b"] = t :=
    Option.some.inj ht
  obtain ⟨list, hlist, rfl⟩ : ∃ list, FillsPlace .inline _ list ∧ fills = [list] := by
    obtain ⟨list, rest, hlist, hrest, rfl⟩ := List.forall₂_cons_left_iff.mp hfills
    obtain rfl := List.forall₂_nil_left_iff.mp hrest
    exact ⟨list, hlist, rfl⟩
  refine ⟨st, h, before, list, after ++ tail, ?_, ?_, ?_⟩
  · rw [htext, hbody]
    simp [Request.place, Test.frame, Text.weave, String.append_assoc]
  · rw [Ne, hlist.eq_empty_iff]
    simp
  · rw [hlist.empty_mem_iff]
    simp [Value.hasEmptyArray, Value.anyHasEmptyArray]

/-- An array without items leaves a list empty that is written inline, and a comparison without its
right side; next to a value it leaves a gap. -/
theorem not_filled_compileAs :
    let text (test : Condition) := ((compileAs { dialect := .postgres, mode := .inline }
      (sampleFilter test) .find).outcome {}).map (·.text)
    text (.among "a" [.array []]) = .ok "SELECT * FROM t WHERE \"a\" IN ()" ∧
      text (.compare "a" .eq (.array [])) = .ok "SELECT * FROM t WHERE \"a\"=" ∧
      text (.among "a" [.array [], .null]) = .ok "SELECT * FROM t WHERE \"a\" IN (,NULL)" := by
  simp only [outcome_compileAs]
  exact ⟨rfl, rfl, rfl⟩

end Settings

end FilterSql
