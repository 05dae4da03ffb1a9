import FilterSql.Compiler
import FilterSql.Proofs.Fragment
import FilterSql.Proofs.Placeholder.Scan

/-!
# Templates with a clause in them

A template with a clause in its places is the text before the first place, and after it, for each
place, the clause and the text up to the next place. What stands around the clause, `frame`, does
not depend on the clause as long as there is one (`fillChars_eq`): a clause that ends in a character
that is not blank keeps the text before it from being trimmed. The clause of a filter is such
(`Condition.ends_clauseFragment?`), since each of its tests ends in a bracket, a word or a
placeholder.
-/

namespace FilterSql

/-! ## Text that does not end in a blank -/

namespace Text

/-- Whether a text ends in a character that is not blank. -/
def EndsSolid (cs : List Char) : Prop :=
  cs.getLast?.any (!isBlank ·)

instance (cs : List Char) : Decidable (EndsSolid cs) :=
  inferInstanceAs (Decidable (_ = true))

theorem isBlank_of_isDigit {c : Char} (h : c.isDigit) : isBlank c = false := by
  simp only [Char.isDigit, ge_iff_le, Bool.and_eq_true, decide_eq_true_eq, UInt32.le_iff_toNat_le]
    at h
  have hlow : 48 ≤ c.toNat := h.1
  have hhigh : c.toNat ≤ 57 := h.2
  simp only [isBlank, Bool.or_eq_false_iff, Bool.and_eq_false_iff, decide_eq_false_iff_not,
    beq_eq_false_iff_ne]
  omega

theorem endsSolid_iff {cs : List Char} :
    EndsSolid cs ↔ ∃ before c, cs = before ++ [c] ∧ isBlank c = false := by
  unfold EndsSolid
  constructor
  · intro h
    obtain ⟨c, hc, hblank⟩ := (Option.any_eq_true _ _).mp h
    obtain ⟨before, rfl⟩ := List.getLast?_eq_some_iff.mp hc
    exact ⟨before, c, rfl, by simpa using hblank⟩
  · rintro ⟨before, c, rfl, hblank⟩
    simp [hblank]

theorem EndsSolid.append {cs : List Char} (h : EndsSolid cs) (before : List Char) :
    EndsSolid (before ++ cs) := by
  obtain ⟨cs, c, rfl, hblank⟩ := endsSolid_iff.mp h
  exact endsSolid_iff.mpr ⟨before ++ cs, c, by rw [List.append_assoc], hblank⟩

theorem EndsSolid.ne_nil {cs : List Char} (h : EndsSolid cs) : cs ≠ [] := by
  rintro rfl
  exact absurd h (by decide)

/-- Trimming stops at a text that does not end in a blank. -/
theorem trimEnd_append {cs : List Char} (h : EndsSolid cs) (rest : List Char) :
    trimEnd (cs ++ rest) = cs ++ trimEnd rest := by
  obtain ⟨before, c, rfl, hblank⟩ := endsSolid_iff.mp h
  unfold trimEnd
  rw [List.reverse_append, List.dropWhile_append]
  cases hrest : rest.reverse.dropWhile isBlank with
  | nil => simp [hblank]
  | cons r rs => simp

theorem trimEnd_prefix_self (cs : List Char) : trimEnd cs <+: cs := by
  have h := List.dropWhile_suffix (l := cs.reverse) isBlank
  rw [← List.reverse_prefix, List.reverse_reverse] at h
  exact h

end Text

/-! ## What stands around the clause -/

namespace Template

open Text

/-- The text of parts before the first place, and the text after each place up to the next. -/
def split : List Part → List Char × List (List Char)
  | [] => ([], [])
  | .text t :: ps => (t ++ (split ps).1, (split ps).2)
  | .slot :: ps => ([], (split ps).1 :: (split ps).2)

/-- Texts without the blanks at the end of the last. -/
def trimLast : List (List Char) → List (List Char)
  | [] => []
  | [t] => [trimEnd t]
  | t :: u :: us => t :: trimLast (u :: us)

/-- The text of a template before its first clause, and the text after each clause up to the next.
Without a place there is one clause, at the end. -/
def frame (template : List Char) : List Char × List (List Char) :=
  if (parts template).contains .slot then
    ((split (parts template)).1, trimLast (split (parts template)).2)
  else (trimEnd template ++ [' '], [[]])

/-- How many times a template has the clause. -/
def copies (template : List Char) : Nat :=
  max 1 ((parts template).count .slot)

theorem length_split (ps : List Part) : (split ps).2.length = ps.count .slot := by
  induction ps with
  | nil => rfl
  | cons p ps ih =>
    cases p with
    | text t => rw [split, ih, List.count_cons_of_ne (by simp)]
    | slot => rw [split, List.length_cons, ih, List.count_cons_self]

theorem length_trimLast (ts : List (List Char)) : (trimLast ts).length = ts.length := by
  induction ts with
  | nil => rfl
  | cons t ts ih =>
    cases ts with
    | nil => rfl
    | cons u us => rw [trimLast, List.length_cons, ih, ← List.length_cons]

theorem length_frame (template : List Char) : (frame template).2.length = copies template := by
  unfold frame copies
  split
  · rename_i h
    have hpos : 0 < (parts template).count .slot :=
      List.count_pos_iff.mpr (List.contains_iff_mem.mp h)
    rw [length_trimLast, length_split]
    omega
  · rename_i h
    have hzero : (parts template).count .slot = 0 :=
      List.count_eq_zero.mpr fun hmem => h (List.contains_iff_mem.mpr hmem)
    rw [hzero]
    rfl

/-- A clause goes into each place as it is. -/
theorem assemble_eq {clause : List Char} (h : clause ≠ []) (written : List Char)
    (ps : List Part) :
    assemble clause written false ps =
      written ++ (split ps).1 ++ (split ps).2.flatMap (clause ++ ·) := by
  have hclause : clause.isEmpty = false := by simpa using h
  induction ps generalizing written with
  | nil => simp [assemble, split]
  | cons p ps ih =>
    cases p with
    | text t => simp [assemble, split, ih, List.append_assoc]
    | slot => simp [assemble, split, ih, hclause, List.append_assoc]

/-- Trimming what ends in clauses, each with a text after it, comes down to trimming the last. -/
theorem trimEnd_flatMap {clause : List Char} (h : EndsSolid clause) (before : List Char)
    {rest : List (List Char)} (hrest : rest ≠ []) :
    trimEnd (before ++ rest.flatMap (clause ++ ·)) =
      before ++ (trimLast rest).flatMap (clause ++ ·) := by
  induction rest generalizing before with
  | nil => exact absurd rfl hrest
  | cons t ts ih =>
    cases ts with
    | nil =>
      have htrim := trimEnd_append (h.append before) t
      simpa [trimLast, List.append_assoc] using htrim
    | cons u us =>
      have hrec := ih (before ++ (clause ++ t)) (by simp)
      simpa [trimLast, List.append_assoc] using hrec

/-- A template has the clause, without the blanks before it, in its frame. -/
theorem fillChars_eq (template : List Char) {clause : List Char}
    (h : EndsSolid (trimStart clause)) :
    fillChars template clause =
      (frame template).1 ++ (frame template).2.flatMap (trimStart clause ++ ·) := by
  have hempty : (trimStart clause).isEmpty = false := by simpa using h.ne_nil
  unfold fillChars frame
  simp only
  split
  · -- After the last clause there is its text, which is all that trimming can reach.
    rename_i hslot
    have hrest : (split (parts template)).2 ≠ [] := by
      rw [← List.length_pos_iff, length_split]
      exact List.count_pos_iff.mpr (List.contains_iff_mem.mp hslot)
    rw [assemble_eq h.ne_nil, List.nil_append, trimEnd_flatMap h _ hrest]
  · rw [if_neg (by simp [hempty])]
    simp

/-! ## Characters of a template -/

theorem stripWord?_suffix {word cs rest : List Char} (h : stripWord? word cs = some rest) :
    rest <:+ cs := by
  induction word generalizing cs with
  | nil =>
    obtain rfl := Option.some.inj h
    exact List.suffix_refl cs
  | cons w ws ih =>
    cases cs with
    | nil => simp [stripWord?] at h
    | cons c cs =>
      simp only [stripWord?] at h
      split at h
      · exact (ih h).trans (List.suffix_cons c cs)
      · simp at h

/-- What is in a part of a template is in the template. -/
theorem mem_of_mem_parts {x : Char} {t cs : List Char} (h : .text t ∈ parts cs) (hx : x ∈ t) :
    x ∈ cs := by
  fun_induction parts cs with
  | case1 => simp at h
  | case2 c cs rest hstrip ih =>
    exact (stripWord?_suffix hstrip).mem (ih (by simpa using h))
  | case3 cs hstrip ih =>
    rcases List.mem_cons.mp h with h | h
    · obtain rfl := Part.text.inj h
      exact List.mem_cons.mpr (.inl (List.mem_singleton.mp hx))
    · exact List.mem_cons_of_mem _ (ih h)
  | case4 c cs hstrip hc ih =>
    rcases List.mem_cons.mp h with h | h
    · obtain rfl := Part.text.inj h
      rcases List.mem_cons.mp hx with rfl | hx
      · exact List.mem_cons_self
      · exact List.mem_cons_of_mem _ ((List.takeWhile_prefix _).mem hx)
    · exact List.mem_cons_of_mem _ ((List.dropWhile_suffix _).mem (ih h))

theorem mem_of_mem_split {x : Char} {t : List Char} {ps : List Part}
    (ht : t ∈ (split ps).1 :: (split ps).2) (hx : x ∈ t) : ∃ u, .text u ∈ ps ∧ x ∈ u := by
  induction ps generalizing t with
  | nil =>
    obtain rfl : t = [] := by simpa [split] using ht
    simp at hx
  | cons p ps ih =>
    cases p with
    | text u =>
      -- What follows a text is before the first place or after it, where the text is put as well.
      rcases List.mem_cons.mp ht with rfl | ht
      · rcases List.mem_append.mp hx with hx | hx
        · exact ⟨u, List.mem_cons_self, hx⟩
        · obtain ⟨v, hv, hxv⟩ := ih List.mem_cons_self hx
          exact ⟨v, List.mem_cons_of_mem _ hv, hxv⟩
      · obtain ⟨v, hv, hxv⟩ := ih (List.mem_cons_of_mem _ ht) hx
        exact ⟨v, List.mem_cons_of_mem _ hv, hxv⟩
    | slot =>
      rcases List.mem_cons.mp ht with rfl | ht
      · simp [split] at hx
      · obtain ⟨v, hv, hxv⟩ := ih ht hx
        exact ⟨v, List.mem_cons_of_mem _ hv, hxv⟩

theorem exists_prefix_of_mem_trimLast {t : List Char} {ts : List (List Char)}
    (h : t ∈ trimLast ts) : ∃ u ∈ ts, t <+: u := by
  induction ts with
  | nil => simp [trimLast] at h
  | cons u us ih =>
    cases us with
    | nil =>
      obtain rfl := List.mem_singleton.mp h
      exact ⟨u, List.mem_cons_self, trimEnd_prefix_self u⟩
    | cons v vs =>
      rcases List.mem_cons.mp h with rfl | h
      · exact ⟨t, List.mem_cons_self, List.prefix_refl t⟩
      · obtain ⟨w, hw, hprefix⟩ := ih h
        exact ⟨w, List.mem_cons_of_mem _ hw, hprefix⟩

/-- What is in a frame is in the template, or is the blank before a clause at the end. -/
theorem mem_of_mem_frame {x : Char} {template t : List Char}
    (ht : t ∈ (frame template).1 :: (frame template).2) (hx : x ∈ t) :
    x ∈ template ∨ x = ' ' := by
  unfold frame at ht
  split at ht
  · left
    obtain ⟨u, hu, hxu⟩ :
        ∃ u ∈ (split (parts template)).1 :: (split (parts template)).2, x ∈ u := by
      rcases List.mem_cons.mp ht with rfl | ht
      · exact ⟨_, List.mem_cons_self, hx⟩
      · obtain ⟨u, hu, hprefix⟩ := exists_prefix_of_mem_trimLast ht
        exact ⟨u, List.mem_cons_of_mem _ hu, hprefix.mem hx⟩
    obtain ⟨v, hv, hxv⟩ := mem_of_mem_split hu hxu
    exact mem_of_mem_parts hv hxv
  · rcases List.mem_cons.mp ht with rfl | ht
    · rcases List.mem_append.mp hx with hx | hx
      · exact .inl ((trimEnd_prefix_self template).mem hx)
      · exact .inr (List.mem_singleton.mp hx)
    · obtain rfl := List.mem_singleton.mp ht
      simp at hx

theorem mem_assemble_nil {x : Char} {written : List Char} {dropped : Bool} {ps : List Part}
    (h : x ∈ assemble [] written dropped ps) :
    x ∈ written ∨ x = ' ' ∨ ∃ t, .text t ∈ ps ∧ x ∈ t := by
  induction ps generalizing written dropped with
  | nil => exact .inl (by simpa [assemble] using h)
  | cons p ps ih =>
    cases p with
    | text t =>
      rw [assemble] at h
      split at h
      · rcases ih h with h | h | ⟨u, hu, hx⟩
        · simp only [List.mem_append] at h
          rcases h with (h | h) | h
          · exact .inl h
          · split at h
            · simp at h
            · exact .inr (.inl (List.mem_singleton.mp h))
          · exact .inr (.inr ⟨t, List.mem_cons_self, (List.dropWhile_suffix _).mem h⟩)
        · exact .inr (.inl h)
        · exact .inr (.inr ⟨u, List.mem_cons_of_mem _ hu, hx⟩)
      · rcases ih h with h | h | ⟨u, hu, hx⟩
        · rcases List.mem_append.mp h with h | h
          · exact .inl h
          · exact .inr (.inr ⟨t, List.mem_cons_self, h⟩)
        · exact .inr (.inl h)
        · exact .inr (.inr ⟨u, List.mem_cons_of_mem _ hu, hx⟩)
    | slot =>
      rw [assemble, if_pos List.isEmpty_nil] at h
      rcases ih h with h | h | ⟨u, hu, hx⟩
      · exact .inl ((trimEnd_prefix_self written).mem h)
      · exact .inr (.inl h)
      · exact .inr (.inr ⟨u, List.mem_cons_of_mem _ hu, hx⟩)

/-- Without a clause a template is made of its own characters, and of blanks between them. -/
theorem mem_fillChars_nil {x : Char} {template : List Char} (h : x ∈ fillChars template []) :
    x ∈ template ∨ x = ' ' := by
  unfold fillChars at h
  simp only at h
  split at h
  · rcases mem_assemble_nil ((trimEnd_prefix_self _).mem h) with h | h | ⟨t, ht, hx⟩
    · simp at h
    · exact .inr h
    · exact .inl (mem_of_mem_parts ht hx)
  · exact .inl h

/-- The text after a clause starts with a digit only where a place of the template is followed by
one. -/
theorem noDigitFirst_frame {template : List Char}
    (h : ∀ t ∈ (split (parts template)).2, NoDigitFirst t) :
    ∀ t ∈ (frame template).2, NoDigitFirst t := by
  intro t ht
  unfold frame at ht
  split at ht
  · obtain ⟨u, hu, rest, rfl⟩ := exists_prefix_of_mem_trimLast ht
    intro c hc
    refine h _ hu c ?_
    rw [List.head?_append, hc]
    rfl
  · obtain rfl := List.mem_singleton.mp ht
    exact noDigitFirst_nil

end Template

/-! ## The clause of a filter -/

namespace Fragment

/-- Whether the text of a fragment with placeholders does not end in a blank. -/
def EndsSolid (f : Fragment) : Prop :=
  ∀ (d : Dialect) (n : Nat), Text.EndsSolid (f.sql d .parameterized n).toList

/-- How a fragment ends. -/
inductive Ends : Fragment → Prop where
  | text (f : Fragment) {s : String} (h : Text.EndsSolid s.toList) : Ends (f ++ [.text s])
  | value (f : Fragment) {s : String} (h : Text.EndsSolid s.toList) (v : Value) :
    Ends (f ++ .text s :: bind v)
  /-- The pattern of a search. -/
  | term (f : Fragment) (s : String) : Ends (f ++ bind (.text s))
  /-- The bounds of a range. -/
  | bound (f : Fragment) (v : Value) : Ends (f ++ .text " AND " :: bind v)

theorem Ends.append {f : Fragment} (h : f.Ends) (before : Fragment) : Ends (before ++ f) := by
  cases h with
  | text f h => exact List.append_assoc before f _ ▸ .text (before ++ f) h
  | value f h v => exact List.append_assoc before f _ ▸ .value (before ++ f) h v
  | term f s => exact List.append_assoc before f _ ▸ .term (before ++ f) s
  | bound f v => exact List.append_assoc before f _ ▸ .bound (before ++ f) v

theorem Ends.cons {f : Fragment} (h : f.Ends) (p : Piece) : Ends (p :: f) :=
  h.append [p]

/-- A text that ends in a word does not end in a blank when the word does not. -/
theorem ends_text (s : String) {word : String} (h : Text.EndsSolid word.toList) :
    Ends [.text (s ++ word)] :=
  .text [] (by rw [String.toList_append]; exact h.append _)

theorem ends_value (s : String) {word : String} (h : Text.EndsSolid word.toList) (v : Value) :
    Ends (.text (s ++ word) :: bind v) :=
  .value [] (by rw [String.toList_append]; exact h.append _) v

/-- What ends in a bracket does not end in a blank. -/
theorem ends_closed (f : Fragment) : Ends (f ++ [.text ")"]) :=
  .text f (by decide)

theorem ends_join (separator : String) {fs : List Fragment} (hne : fs ≠ [])
    (h : ∀ f ∈ fs, f.Ends) : (join separator fs).Ends := by
  induction fs with
  | nil => exact absurd rfl hne
  | cons f fs ih =>
    cases fs with
    | nil => exact h f (by simp)
    | cons g gs =>
      rw [join_cons_cons]
      exact ((ih (by simp) fun f hf => h f (by simp [hf])).cons _).append f

/-- A placeholder ends in a digit. -/
theorem endsSolid_bind (before : Fragment) (v : Value) : EndsSolid (before ++ bind v) := by
  intro d n
  have hdigits : ∀ k, Text.EndsSolid (Nat.toDigits 10 k) := by
    intro k
    cases h : (Nat.toDigits 10 k).getLast? with
    | none => exact absurd (List.getLast?_eq_none_iff.mp h) Nat.toDigits_ne_nil
    | some c =>
      have hc := Text.isDigit_of_mem_toDigits (List.mem_of_getLast? h)
      simp [Text.EndsSolid, h, Text.isBlank_of_isDigit hc]
  rw [sql_append, String.toList_append, bind, sql, sql, String.append_empty,
    Dialect.toList_placeholder]
  exact ((hdigits _).append [d.placeholderLead]).append _

/-- With placeholders no fragment of a filter ends in a blank. -/
theorem Ends.endsSolid {f : Fragment} (h : f.Ends) : f.EndsSolid := by
  cases h with
  | text f h =>
    intro d n
    rw [sql_append, String.toList_append, sql, sql, String.append_empty]
    exact h.append _
  | value f _ v | bound f v =>
    rw [List.append_cons]
    exact endsSolid_bind _ v
  | term f s => exact endsSolid_bind f (.text s)

end Fragment

theorem Test.ends_membership (column operator : String) (values : List Value) :
    (membership column operator values).Ends :=
  (Fragment.ends_closed _).cons _

/-- Every test ends in a bracket, a word or a value. -/
theorem Test.ends (t : Test) : t.fragment.Ends := by
  have hcomparer : ∀ c : Comparer, Text.EndsSolid c.sql.toList := fun c => by cases c <;> decide
  cases t with
  | isNull column =>
    exact Fragment.ends_text column (by decide : Text.EndsSolid " IS NULL".toList)
  | notNull column =>
    exact Fragment.ends_text column (by decide : Text.EndsSolid " IS NOT NULL".toList)
  | raw sql => exact Fragment.ends_text ("(" ++ sql) (by decide : Text.EndsSolid ")".toList)
  | blank column => exact Fragment.ends_text _ (by decide : Text.EndsSolid ")=0)".toList)
  | filled column => exact Fragment.ends_text _ (by decide : Text.EndsSolid ")>0".toList)
  | compare column comparer value | datePart part column comparer value =>
    exact Fragment.ends_value _ (hcomparer comparer) value
  | like column pattern => exact (Fragment.Ends.term [] pattern).cons _
  | among column values => exact ends_membership column " IN " values
  | notAmong column values => exact ends_membership column " NOT IN " values
  | between column low high => exact (Fragment.Ends.bound _ high).cons _
  | permit owner orNull column values =>
    -- The values are tested last, whatever else lets a row pass.
    have hlast : (ways owner orNull column values).getLast? =
        some (membership column " IN " values) := by
      simp [ways]
    rw [fragment]
    split
    · rename_i way h
      obtain rfl : way = membership column " IN " values := by simpa [h] using hlast
      exact ends_membership column " IN " values
    · exact (Fragment.ends_closed _).cons _

namespace Condition

variable {column : String → String}

theorem ends_fragment? {c : Condition} {f : Fragment} (h : c.fragment? column = some f) :
    f.Ends := by
  obtain ⟨clause, -, rfl⟩ := Option.map_eq_some_iff.mp h
  cases clause with
  | test t =>
    rw [Clause.fragment_test]
    exact t.ends
  | any members =>
    rw [Clause.fragment_any]
    exact (Fragment.ends_closed _).cons _

/-- The clause of a filter, without the blank that a filter starts with. -/
def clauseFragment? (column : String → String) (cs : List Condition) : Option Fragment :=
  match cs.filterMap (fragment? column) with
  | [] => none
  | fs => some (.text "WHERE " :: Fragment.join " AND " fs)

theorem ends_clauseFragment? {cs : List Condition} {f : Fragment}
    (h : clauseFragment? column cs = some f) : f.Ends := by
  unfold clauseFragment? at h
  split at h
  · cases h
  · rename_i hne
    obtain rfl := Option.some.inj h
    refine Fragment.Ends.cons (Fragment.ends_join _ hne fun f hf => ?_) _
    obtain ⟨c, -, hc⟩ := List.mem_filterMap.mp hf
    exact ends_fragment? hc

/-- A filter without a clause is empty. -/
theorem filterFragment_of_clauseFragment?_eq_none {cs : List Condition}
    (h : clauseFragment? column cs = none) : filterFragment column cs = [] := by
  unfold clauseFragment? at h
  rw [filterFragment_eq]
  cases hfs : cs.filterMap (fragment? column) with
  | nil => rfl
  | cons f fs =>
    rw [hfs] at h
    cases h

/-- A filter is its clause after a blank. -/
theorem exists_of_clauseFragment? {cs : List Condition} {f : Fragment}
    (h : clauseFragment? column cs = some f) :
    ∃ g, f = .text "WHERE " :: g ∧ filterFragment column cs = .text " WHERE " :: g := by
  unfold clauseFragment? at h
  rw [filterFragment_eq]
  cases hfs : cs.filterMap (fragment? column) with
  | nil =>
    rw [hfs] at h
    cases h
  | cons g gs =>
    rw [hfs] at h
    exact ⟨_, (Option.some.inj h).symm, rfl⟩

end Condition

/-- The text of a template with its filter: the clause in the frame, or the template without its
places where the filter is empty. -/
theorem Draft.text_template (dialect : Dialect) (template : String) (params : List Value)
    (column : String → String) (cs : List Condition) :
    (Draft.template template params (Condition.filterFragment column cs)).text dialect
        .parameterized =
      match Condition.clauseFragment? column cs with
      | none => Template.fill template ""
      | some f =>
        String.ofList ((Template.frame template.toList).1 ++
          (Template.frame template.toList).2.flatMap
            ((f.sql dialect .parameterized params.length).toList ++ ·)) := by
  rw [text]
  cases hclause : Condition.clauseFragment? column cs with
  | none =>
    rw [Condition.filterFragment_of_clauseFragment?_eq_none hclause]
    rfl
  | some f =>
    have hsolid := (Condition.ends_clauseFragment? hclause).endsSolid dialect params.length
    obtain ⟨g, rfl, hfilter⟩ := Condition.exists_of_clauseFragment? hclause
    -- Trimming takes away the blank before the clause, and no more.
    have htrim : Text.trimStart
        (Fragment.sql dialect .parameterized params.length (.text " WHERE " :: g)).toList =
          (Fragment.sql dialect .parameterized params.length (.text "WHERE " :: g)).toList := by
      rw [Fragment.sql, Fragment.sql, String.toList_append, String.toList_append]
      rfl
    rw [hfilter, Template.fill, Template.fillChars_eq _ (by rwa [htrim]), htrim]

end FilterSql
