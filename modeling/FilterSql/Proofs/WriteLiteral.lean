import FilterSql.Proofs.Literal
import FilterSql.Proofs.Substitution
import FilterSql.Proofs.WriteScan

/-!
# Writes in literals

The scan for writes knows no literals: a word of a write counts between quotes as well. Of the
literal of a value it sees the words in the texts that the value holds (`Value.holdsWrite`), which
the quotes keep apart from everything else, and no others (`scan_literal`). A placeholder has no
word (`scan_placeholder`).

What comes after a literal is only asked to be scanned alike after a word and after anything else,
`Fresh`: in a filter it is an operator, a bracket or a comma. So a filter with its values in the
text has the writes that they hold and those that it has with placeholders
(`Condition.showsValues_clauseFragment?`).
-/

namespace FilterSql

namespace WriteScan

open Text Template

/-! ## Quoted texts -/

theorem startsWrite_double (cs : List Char) :
    startsWrite (double '\'' cs ++ ['\'']) = startsWrite cs := by
  refine startsWrite_congr fun k hk => ?_
  have hnot : '\'' ∉ k := (by decide : ∀ k ∈ keywords, '\'' ∉ k) k hk
  have hlower : '\''.toLower = '\'' := by decide
  clear hk
  -- No quote goes on a keyword, so that before one of them the texts are read alike.
  induction k generalizing cs with
  | nil =>
    cases cs with
    | nil => rfl
    | cons c cs =>
      by_cases hc : c = '\''
      · simp [stripWord?, double, hc]
      · simp [stripWord?, double, hc]
  | cons w ws ih =>
    obtain ⟨hw, hws⟩ : '\'' ≠ w ∧ '\'' ∉ ws := by simpa using hnot
    cases cs with
    | nil => simp [stripWord?, double, hlower, hw]
    | cons c cs =>
      by_cases hc : c = '\''
      · simp [stripWord?, double, hc, hlower, hw]
      · rw [double, if_neg hc, List.cons_append, stripWord?, stripWord?]
        split
        · exact ih cs hws
        · rfl

/-- Doubled quotes and the quote at the end add no write to a text. -/
theorem scan_double (inWord : Bool) (cs : List Char) :
    scan inWord (double '\'' cs ++ ['\'']) = scan inWord cs := by
  have hquote : isLate '\'' := by decide
  have hword : isWord '\'' = false := by decide
  induction cs generalizing inWord with
  | nil => rw [double, List.nil_append, scan_cons_of_isLate hquote]; rfl
  | cons c cs ih =>
    by_cases hc : c = '\''
    · rw [double, if_pos hc, List.cons_append, List.cons_append, hc, scan_cons_of_isLate hquote,
        scan_cons_of_isLate hquote, scan_cons_of_isLate hquote, hword, ih]
    · have hstart := startsWrite_double (c :: cs)
      rw [double, if_neg hc, List.cons_append] at hstart ⊢
      rw [scan, scan, hstart, ih]

/-- A quoted text has the writes of the text. -/
theorem scan_enclose (cs rest : List Char) (inWord : Bool) :
    scan inWord (enclose '\'' cs ++ rest) = (scan false cs || scan false rest) := by
  have hquote : isForeign '\'' := by decide
  have hword : isWord '\'' = false := by decide
  rw [enclose, List.cons_append, List.append_assoc, List.singleton_append,
    scan_cons_of_isLate (isLate_of_isForeign hquote), hword, scan_append_cons hquote, scan_double,
    hword]

/-! ## Plain texts -/

/-- A word with which no keyword starts has no write, however it goes on. -/
theorem scan_append_word {w : List Char} (hstart : w.head?.all isLate) (hw : ∀ c ∈ w, isWord c)
    {rest : List Char} (hrest : Fresh rest) : scan false (w ++ rest) = scan false rest := by
  cases w with
  | nil => rfl
  | cons c w =>
    obtain ⟨hc, hw⟩ := List.forall_mem_cons.mp hw
    rw [List.cons_append, scan_cons_of_isLate (by simpa using hstart), hc, scan_word hw, hrest]

theorem isLate_of_isNumeric {c : Char} (h : isNumeric c) : isLate c := by
  simp only [isNumeric, Bool.or_eq_true, beq_iff_eq] at h
  rcases h with (h | rfl) | rfl
  · exact isLate_of_isInert (by simp [isInert, h])
  · decide
  · decide

/-- Infinity starts like a keyword and goes on in another way. -/
theorem startsWrite_inf (rest : List Char) : startsWrite ('i' :: 'n' :: 'f' :: rest) = false := rfl

theorem scan_inf {rest : List Char} (hrest : Fresh rest) (inWord : Bool) :
    scan inWord ("inf".toList ++ rest) = scan false rest := by
  have htail : ∀ c ∈ ['n', 'f'], isWord c := List.all_eq_true.mp (by decide)
  have hword : isWord 'i' = true := by decide
  have hscan : scan inWord ('i' :: ('n' :: 'f' :: rest)) = scan true (['n', 'f'] ++ rest) := by
    rw [scan, startsWrite_inf, Bool.and_false, Bool.false_or, hword]
    rfl
  exact hscan.trans ((scan_word htail rest).trans hrest)

/-- No number has a write. -/
theorem scan_binary (x : Binary64) {rest : List Char} (hrest : Fresh rest) :
    scan false (x.text.toList ++ rest) = scan false rest := by
  rcases text_binary_cases x with hx | hx
  · exact scan_append_of_isLate (fun c hc => isLate_of_isNumeric (hx c hc)) hrest false
  · obtain hx | hx | hx : x.text = "NaN" ∨ x.text = "inf" ∨ x.text = "-inf" := by simpa using hx
    · rw [hx]
      exact scan_append_word (by decide) (List.all_eq_true.mp (by decide)) hrest
    · rw [hx]
      exact scan_inf hrest false
    · have hsign : isLate '-' := by decide
      have htext : "-inf".toList ++ rest = '-' :: ("inf".toList ++ rest) := rfl
      rw [hx, htext, scan_cons_of_isLate hsign, scan_inf hrest]

end WriteScan

namespace Value

open WriteScan Text

/-- Whether the word of a write stands in one of the texts that a value holds. -/
def holdsWrite (v : Value) : Bool :=
  v.leaves.any fun l => isWrite l.content

theorem holdsWrite_array (items : List Value) :
    (array items).holdsWrite = items.any holdsWrite := by
  rw [holdsWrite, leaves, leavesAll_eq_flatMap, List.any_flatMap]
  rfl

/-- The literal of a moment has the writes of its text, of which there are none. -/
theorem scan_moment (d : Dialect) (t : DateTime) (rest : List Char) :
    scan false ((d.dateLiteral (quoteString t.text)).toList ++ rest) =
      (isWrite t.text || scan false rest) := by
  cases d with
  | postgres =>
    have hlate : isLate ' ' := by decide
    have htext : (Dialect.postgres.dateLiteral (quoteString t.text)).toList ++ rest =
        "TIMESTAMP".toList ++ ' ' :: (enclose '\'' t.text.toList ++ rest) := by
      simp [Dialect.dateLiteral, quoteString]
    rw [htext, scan_append_word (by decide) (List.all_eq_true.mp (by decide)) (fresh_cons hlate _),
      scan_cons_of_isLate hlate, scan_enclose]
    rfl
  | oracle =>
    let format := "YYYY-MM-DD HH24:MI:SS".toList
    have htext : (Dialect.oracle.dateLiteral (quoteString t.text)).toList ++ rest =
        "TO_DATE".toList ++ '(' :: (enclose '\'' t.text.toList ++ ',' :: ' ' ::
          (enclose '\'' format ++ ')' :: rest)) := by
      simp [Dialect.dateLiteral, quoteString, enclose, double, format]
    have hformat : scan false format = false := by decide +kernel
    have hopening : isLate '(' := by decide
    have hclosing : isLate ')' := by decide
    have hcomma : isLate ',' := by decide
    have hblank : isLate ' ' := by decide
    have hword : isWord '(' = false ∧ isWord ')' = false ∧ isWord ' ' = false := by decide
    rw [htext, scan_append_word (by decide) (List.all_eq_true.mp (by decide))
      (fresh_cons hopening _), scan_cons_of_isLate hopening, scan_enclose,
      scan_cons_of_isLate hcomma, scan_cons_of_isLate hblank, scan_enclose, hformat,
      scan_cons_of_isLate hclosing, hword.2.1, Bool.false_or]
    rfl

/-- Literals with commas between them have the writes of all. -/
theorem scan_literals {d : Dialect} {items : List Value}
    (hitems : ∀ v ∈ items, ∀ {rest : List Char}, Fresh rest →
      scan false ((v.literal d).toList ++ rest) = (v.holdsWrite || scan false rest))
    {rest : List Char} (hrest : Fresh rest) :
    scan false ((String.intercalate "," (items.map (literal d))).toList ++ rest) =
      (items.any holdsWrite || scan false rest) := by
  have hcomma : isLate ',' := by decide
  have hword : isWord ',' = false := by decide
  induction items with
  | nil => simp
  | cons v vs ih =>
    obtain ⟨hv, hvs⟩ := List.forall_mem_cons.mp hitems
    cases vs with
    | nil => simpa using hv hrest
    | cons w ws =>
      -- The comma ends the literal before it, and no write starts with it.
      have htext : (String.intercalate "," ((v :: w :: ws).map (literal d))).toList ++ rest =
          (v.literal d).toList ++ ',' ::
            ((String.intercalate "," ((w :: ws).map (literal d))).toList ++ rest) := by
        simp [String.intercalate_cons_cons]
      rw [htext, hv (fresh_cons hcomma _), scan_cons_of_isLate hcomma, hword, ih hvs,
        List.any_cons (a := v), Bool.or_assoc]

/-- Of a literal the scan sees the writes in the texts that the value holds, and no others. -/
theorem scan_literal (d : Dialect) : ∀ (v : Value) {rest : List Char}, Fresh rest →
    scan false ((v.literal d).toList ++ rest) = (v.holdsWrite || scan false rest)
  | .null, _, hrest =>
    scan_append_word (w := "NULL".toList) (by decide) (List.all_eq_true.mp (by decide)) hrest
  | .bool b, rest, hrest => by
    have hstart : ((Value.bool b).literal d).toList.head?.all isLate := by
      cases d <;> cases b <;> decide
    have hword : ((Value.bool b).literal d).toList.all isWord := by
      cases d <;> cases b <;> decide
    exact scan_append_word hstart (List.all_eq_true.mp hword) hrest
  | .int _, _, hrest =>
    scan_append_of_isLate (fun _ hc => isLate_of_isNumeric (isNumeric_of_mem_toString_int hc)) hrest
      false
  | .float x, _, hrest => scan_binary x hrest
  | .text s, rest, _ => by
    rw [literal, quoteString, String.toList_ofList, scan_enclose]
    simp [holdsWrite, leaves, Leaf.content, isWrite]
  | .json document, rest, _ => by
    rw [literal, quoteString, String.toList_ofList, scan_enclose]
    simp [holdsWrite, leaves, Leaf.content, isWrite]
  | .dateTime t, rest, _ => by
    rw [literal, scan_moment]
    simp [holdsWrite, leaves, Leaf.content]
  | .array items, rest, hrest => by
    rw [literal, literals_eq_map, holdsWrite_array]
    exact scan_literals (fun v _ _ hrest => scan_literal d v hrest) hrest
  | .deferred v, rest, hrest => by
    -- One level is looked through: what is deferred again is `NULL`.
    have hv := scan_literal d v hrest
    cases v with
    | deferred _ =>
      exact scan_append_word (w := "NULL".toList) (by decide) (List.all_eq_true.mp (by decide))
        hrest
    | _ => exact hv

end Value

/-- A placeholder has no write. -/
theorem WriteScan.scan_placeholder (d : Dialect) (n : Nat) {rest : List Char} (hrest : Fresh rest) :
    scan false ((d.placeholder n).toList ++ rest) = scan false rest := by
  have hlead : isLate d.placeholderLead := by cases d <;> decide
  refine scan_append_of_isLate (fun c hc => ?_) hrest false
  rw [Dialect.toList_placeholder] at hc
  rcases List.mem_cons.mp hc with rfl | hc
  · exact hlead
  · exact isLate_of_isNumeric (Text.isNumeric_of_isDigit (Text.isDigit_of_mem_toDigits hc))

/-! ## Fragments -/

namespace Fragment

open WriteScan

/-- Whether a text ends in a character that is neither in a word nor in a keyword. -/
def Opens (s : String) : Prop :=
  s.toList.getLast?.any fun c => isForeign c && !Text.isWord c

/-- Whether a text starts with such a character. -/
def Closes (s : String) : Prop :=
  s.toList.head?.any fun c => isForeign c && !Text.isWord c

instance (s : String) : Decidable (Opens s) :=
  inferInstanceAs (Decidable (_ = true))

instance (s : String) : Decidable (Closes s) :=
  inferInstanceAs (Decidable (_ = true))

/-- What comes after an opening text is scanned by itself. -/
theorem scan_append_opens {s : String} (hs : Opens s) (before rest : List Char) :
    scan false (before ++ (s.toList ++ rest)) =
      (scan false (before ++ s.toList) || scan false rest) := by
  obtain ⟨c, hlast, hc⟩ := (Option.any_eq_true _ _).mp hs
  obtain ⟨hforeign, hword⟩ : isForeign c ∧ Text.isWord c = false := by simpa using hc
  obtain ⟨start, hstart⟩ := List.getLast?_eq_some_iff.mp hlast
  have hscan := scan_append_cons hforeign false (before ++ start) rest
  rw [hword] at hscan
  simpa [hstart] using hscan

/-- A closing text is fresh. -/
theorem fresh_append_closes {s : String} (hs : Closes s) (rest : List Char) :
    Fresh (s.toList ++ rest) := by
  obtain ⟨c, hfirst, hc⟩ := (Option.any_eq_true _ _).mp hs
  obtain ⟨hforeign, -⟩ : isForeign c ∧ Text.isWord c = false := by simpa using hc
  obtain ⟨cs, hcs⟩ := List.head?_eq_some_iff.mp hfirst
  rw [hcs]
  exact fresh_cons (isLate_of_isForeign hforeign) _

/-- Whether the literals of a fragment have the writes of their values and hide none, wherever the
fragment stands and whatever fresh text comes after it. -/
def ShowsValues (f : Fragment) : Prop :=
  ∀ (d : Dialect) (m n : Nat) (before : List Char) {rest : List Char}, Fresh rest →
    scan false (before ++ ((f.sql d .inline m).toList ++ rest)) =
      (f.values.any Value.holdsWrite ||
        scan false (before ++ ((f.sql d .parameterized n).toList ++ rest)))

theorem showsValues_nil : ShowsValues [] := by
  intro d m n before rest _
  rfl

/-- Text before a fragment is text that it stands behind. -/
theorem ShowsValues.cons {f : Fragment} (h : f.ShowsValues) (s : String) :
    ShowsValues (.text s :: f) := by
  intro d m n before rest hrest
  have hscan := h d m n (before ++ s.toList) hrest
  simpa [sql] using hscan

theorem showsValues_text (s : String) : ShowsValues [.text s] :=
  showsValues_nil.cons s

/-- A closing text keeps two fragments apart. -/
theorem ShowsValues.append {f g : Fragment} {s : String} (hf : f.ShowsValues)
    (hg : ShowsValues (.text s :: g)) (hs : Closes s) : ShowsValues (f ++ .text s :: g) := by
  intro d m n before rest hrest
  let after := ((Fragment.sql d .parameterized (n + (f.params .parameterized).length)
    (.text s :: g)).toList)
  have hfresh : Fresh (after ++ rest) := by
    have htext := fresh_append_closes hs
      ((g.sql d .parameterized (n + (f.params .parameterized).length)).toList ++ rest)
    simpa [after, sql] using htext
  -- First the values of the second fragment are exchanged, behind the literals of the first.
  have hsecond := hg d (m + (f.params .inline).length) (n + (f.params .parameterized).length)
    (before ++ (f.sql d .inline m).toList) hrest
  have hfirst := hf d m n before hfresh
  rw [sql_append, sql_append, String.toList_append, String.toList_append, values_append,
    List.any_append, List.append_assoc, List.append_assoc, ← List.append_assoc before, hsecond,
    List.append_assoc before, hfirst, values_text, ← Bool.or_assoc, Bool.or_comm (List.any _ _)]

/-- A value after an opening text. -/
theorem showsValues_bind {s : String} (hs : Opens s) (v : Value) :
    ShowsValues (.text s :: bind v) := by
  intro d m n before rest hrest
  have hliteral := v.resolve.scan_literal d hrest
  have hplaceholder := scan_placeholder d (n + 1) hrest
  have hinline := scan_append_opens hs before ((v.resolve.literal d).toList ++ rest)
  have hparameterized := scan_append_opens hs before ((d.placeholder (n + 1)).toList ++ rest)
  rw [hliteral] at hinline
  rw [hplaceholder] at hparameterized
  simp only [bind, sql, String.append_empty, String.toList_append, List.append_assoc, values_text,
    values_value, values_nil, List.any_cons, List.any_nil, Bool.or_false, hinline, hparameterized]
  exact Bool.or_left_comm ..

/-- A list of values after an opening text. -/
theorem showsValues_bindList {s : String} (hs : Opens s) (vs : List Value) :
    ShowsValues (.text s :: bindList vs) := by
  cases vs with
  | nil => exact (showsValues_text "NULL").cons s
  | cons v vs =>
    rw [bindList]
    induction vs generalizing s v with
    | nil => exact showsValues_bind hs v
    | cons w vs ih =>
      have hopens : Opens "," := by decide
      have hcloses : Closes "," := by decide
      have hlist := (showsValues_bind hs v).append (ih hopens w) hcloses
      exact hlist

theorem showsValues_join {separator : String} (hs : Closes separator) {fs : List Fragment}
    (h : ∀ f ∈ fs, f.ShowsValues) : (join separator fs).ShowsValues := by
  induction fs with
  | nil => exact showsValues_nil
  | cons f fs ih =>
    obtain ⟨hf, hfs⟩ := List.forall_mem_cons.mp h
    cases fs with
    | nil => exact hf
    | cons g gs =>
      rw [join_cons_cons]
      exact hf.append ((ih hfs).cons separator) hs

/-- A fragment between brackets. -/
theorem ShowsValues.enclosed {f : Fragment} (h : f.ShowsValues) :
    ShowsValues (.text "(" :: (f ++ [.text ")"])) :=
  (h.append (showsValues_text ")") (by decide)).cons "("

end Fragment

/-- A text that ends in an opening word is opening. -/
theorem Fragment.Opens.append_left {word : String} (h : Opens word) (s : String) :
    Opens (s ++ word) := by
  obtain ⟨c, hlast, hc⟩ := (Option.any_eq_true _ _).mp h
  rw [Opens, String.toList_append, List.getLast?_append, hlast]
  exact hc

namespace Test

open Fragment

theorem showsValues_membership (column : String) {operator : String} (h : Opens (operator ++ "("))
    (values : List Value) : (membership column operator values).ShowsValues := by
  have hopens : Opens (column ++ operator ++ "(") := by
    rw [String.append_assoc]
    exact h.append_left column
  have hlist := (showsValues_bindList hopens values).append (showsValues_text ")") (by decide)
  exact hlist

theorem opens_comparer (comparer : Comparer) : Opens comparer.sql := by
  cases comparer <;> decide

/-- In every test a value comes after an opening text. -/
theorem showsValues (t : Test) : t.fragment.ShowsValues := by
  cases t with
  | isNull _ | notNull _ | blank _ | filled _ | raw _ => exact showsValues_text _
  | compare column comparer value =>
    exact showsValues_bind ((opens_comparer comparer).append_left column) value
  | datePart part column comparer value =>
    exact showsValues_bind ((opens_comparer comparer).append_left _) value
  | like column pattern =>
    have hopens : Opens ") LIKE " := by decide
    exact showsValues_bind (hopens.append_left ("UPPER(" ++ column)) (.text pattern)
  | among column values =>
    exact showsValues_membership column (by decide : Opens (" IN " ++ "(")) values
  | notAmong column values =>
    exact showsValues_membership column (by decide : Opens (" NOT IN " ++ "(")) values
  | between column low high =>
    have hlow : Opens (column ++ " BETWEEN ") := (by decide : Opens " BETWEEN ").append_left column
    have hhigh : Opens " AND " := by decide
    exact (showsValues_bind hlow low).append (showsValues_bind hhigh high) (by decide)
  | permit owner orNull column values =>
    have hways : ∀ way ∈ ways owner orNull column values, way.ShowsValues := by
      have hequals : Opens "=" := by decide
      intro way hway
      simp only [ways, List.mem_append, List.mem_singleton] at hway
      rcases hway with (hway | hway) | rfl
      · cases owner with
        | none => simp at hway
        | some cv =>
          obtain rfl := List.mem_singleton.mp hway
          exact showsValues_bind (hequals.append_left cv.1) cv.2
      · cases orNull with
        | false => simp at hway
        | true =>
          obtain rfl : way = [.text (column ++ " IS NULL")] := by simpa using hway
          exact showsValues_text _
      · exact showsValues_membership column (by decide : Opens (" IN " ++ "(")) values
    rw [fragment]
    split
    · rename_i way h
      exact hways way (by simp [h])
    · exact (showsValues_join (by decide) hways).enclosed

end Test

namespace Condition

open Fragment

variable {column : String → String}

theorem showsValues_fragment? (c : Condition) :
    ∀ f, c.fragment? column = some f → f.ShowsValues := by
  induction c using Condition.induction with
  | test c hc =>
    intro f hf
    rw [fragment?_of_isTest column hc] at hf
    obtain ⟨t, -, rfl⟩ := Option.map_eq_some_iff.mp hf
    exact t.showsValues
  | unknown kind =>
    intro f hf
    simp at hf
  | any cs ih =>
    intro f hf
    have hmembers : ∀ g ∈ cs.filterMap (fragment? column), g.ShowsValues := by
      intro g hg
      obtain ⟨c, hc, hg⟩ := List.mem_filterMap.mp hg
      exact ih c hc g hg
    rw [fragment?_any] at hf
    split at hf
    · simp at hf
    · obtain rfl := Option.some.inj hf
      exact (showsValues_join (by decide) hmembers).enclosed

/-- The clause of a filter shows its values. -/
theorem showsValues_clauseFragment? {cs : List Condition} {f : Fragment}
    (h : clauseFragment? column cs = some f) : f.ShowsValues := by
  unfold clauseFragment? at h
  split at h
  · cases h
  · obtain rfl := Option.some.inj h
    refine ShowsValues.cons (showsValues_join (by decide) fun g hg => ?_) "WHERE "
    obtain ⟨c, -, hc⟩ := List.mem_filterMap.mp hg
    exact showsValues_fragment? c g hc

end Condition

end FilterSql
