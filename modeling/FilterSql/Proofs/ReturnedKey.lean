import FilterSql.Proofs.Column
import FilterSql.Proofs.Fetching
import FilterSql.Proofs.History
import FilterSql.Proofs.Localized

/-!
# The key of an inserted row

An insert that lists no columns to give back gives back its primary key. The statement asks for the
column that the name of the key resolves to, and the value is then looked for in the row under the
name itself. For a plain name both are one, and the value comes back. The column of a localized name
or of an expression is never called like that, whatever the case of letters
(`Column.not_sameName_of_not_isPlain`): the cell that the database answers with has no influence on
the output, and the key of a row that has only this cell is none (`Settings.value_of_returned_key`).

To see that the two names differ it is enough to count the quotes that they start with, for quoting
a column doubles these, and a localized word adds one to them at most.
-/

namespace FilterSql

namespace Text

theorem double_append (q : Char) (cs ds : List Char) :
    double q (cs ++ ds) = double q cs ++ double q ds := by
  induction cs with
  | nil => rfl
  | cons c cs ih =>
    rw [List.cons_append, double, double, ih]
    split <;> rfl

theorem double_of_not_mem {q : Char} {cs : List Char} (h : q ∉ cs) : double q cs = cs := by
  induction cs with
  | nil => rfl
  | cons c cs ih =>
    rw [double, if_neg fun hc => h (by simp [hc]), ih fun hcs => h (List.mem_cons_of_mem _ hcs)]

theorem length_le_double (q : Char) (cs : List Char) : cs.length ≤ (double q cs).length := by
  induction cs with
  | nil => exact Nat.le_refl 0
  | cons c cs ih =>
    rw [double]
    split
    · exact Nat.le_succ_of_le (Nat.succ_le_succ ih)
    · exact Nat.succ_le_succ ih

/-- The number of quotes that a text starts with. -/
def leadingQuotes (cs : List Char) : Nat :=
  (cs.takeWhile (· = '"')).length

@[simp]
theorem leadingQuotes_quote (cs : List Char) :
    leadingQuotes ('"' :: cs) = leadingQuotes cs + 1 := by
  simp [leadingQuotes]

theorem leadingQuotes_of_ne {c : Char} (h : c ≠ '"') (cs : List Char) :
    leadingQuotes (c :: cs) = 0 := by
  simp [leadingQuotes, h]

theorem leadingQuotes_toLower (cs : List Char) :
    leadingQuotes (cs.map Char.toLower) = leadingQuotes cs := by
  rw [leadingQuotes, List.takeWhile_map, List.length_map]
  congr 2
  funext c
  simp [toLower_eq_iff (c := c) (x := '"') (by decide)]

/-- Doubling the quotes of a text doubles those that it starts with. -/
theorem leadingQuotes_double {cs : List Char} (h : ∃ c ∈ cs, c ≠ '"') (rest : List Char) :
    leadingQuotes (double '"' cs ++ rest) = 2 * leadingQuotes cs := by
  induction cs with
  | nil => simp at h
  | cons c cs ih =>
    rw [double]
    by_cases hc : c = '"'
    · subst hc
      have hcs : ∃ c ∈ cs, c ≠ '"' := by simpa using h
      rw [if_pos rfl, List.cons_append, List.cons_append, leadingQuotes_quote, leadingQuotes_quote,
        ih hcs, leadingQuotes_quote]
      omega
    · rw [if_neg hc, List.cons_append, leadingQuotes_of_ne hc, leadingQuotes_of_ne hc]

end Text

namespace Column

open Text

/-- Whether a name is neither localized nor an expression. -/
def isPlain (name : String) : Bool :=
  !name.toList.contains marker && !isExpression name

theorem resolve_of_isPlain {name : String} (h : isPlain name) (language : String) :
    resolve language name = quoteIdentifier name := by
  rw [isPlain, Bool.and_eq_true, Bool.not_eq_true', Bool.not_eq_true'] at h
  rw [resolve, sqlOf, h.1, h.2, if_neg Bool.false_ne_true, if_neg Bool.false_ne_true]

theorem ne_quote_of_isWord {c : Char} (h : isWord c) : c ≠ '"' := by
  rintro rfl
  exact absurd h (by decide)

variable {language word cs : List Char}

/-- Where a word is read and the text then starts with a quote, it is the quote of a column: the
word goes on up to a marker. -/
theorem eq_of_replaceMarked_eq_quote {t : List Char} (hne : word ≠ [])
    (hword : ∀ c ∈ word, isWord c) (h : replaceMarked language false word cs = '"' :: t) :
    ∃ more post rest, (∀ c ∈ more, isWord c) ∧ cs = more ++ marker :: post ∧
      t = double '"' (word ++ more ++ suffix language) ++ '"' :: rest := by
  have hhead : ∀ t', word ++ t' ≠ '"' :: t := by
    obtain ⟨c, ws, rfl⟩ := List.exists_cons_of_ne_nil hne
    intro t' heq
    exact ne_quote_of_isWord (hword c (by simp)) (List.cons.inj heq).1
  induction cs generalizing word with
  | nil => exact absurd h (by simpa [replaceMarked] using hhead [])
  | cons c cs ih =>
    rw [replaceMarked] at h
    split at h
    · rename_i hc
      have hlonger : ∀ c' ∈ word ++ [c], isWord c' := by
        simpa [or_imp, forall_and] using ⟨hword, hc⟩
      obtain ⟨more, post, rest, hmore, rfl, rfl⟩ := ih (by simp) hlonger h fun t' heq =>
        hhead (c :: t') (by simpa using heq)
      exact ⟨c :: more, post, rest, List.forall_mem_cons.mpr ⟨hc, hmore⟩, rfl, by simp⟩
    · split at h
      · rename_i hmarker
        obtain ⟨rfl, -⟩ := hmarker
        refine ⟨[], cs, replaceMarked language false [] cs, by simp, rfl, ?_⟩
        simpa [localized, enclose] using h.symm
      · exact absurd h (hhead _)

/-- A word that is read adds one quote at most to the start of a text. -/
theorem leadingQuotes_replaceMarked_word (hne : word ≠ []) (hword : ∀ c ∈ word, isWord c) :
    leadingQuotes (replaceMarked language false word cs) ≤ 1 := by
  cases hreplaced : replaceMarked language false word cs with
  | nil => exact Nat.zero_le 1
  | cons x t =>
    by_cases hx : x = '"'
    · subst hx
      obtain ⟨more, post, rest, -, -, rfl⟩ := eq_of_replaceMarked_eq_quote hne hword hreplaced
      obtain ⟨c, ws, rfl⟩ := List.exists_cons_of_ne_nil hne
      have hc := ne_quote_of_isWord (hword c (by simp))
      simp [double, hc, leadingQuotes_of_ne hc]
    · rw [leadingQuotes_of_ne hx]
      exact Nat.zero_le 1

/-- Replacing the marked words of a text adds one quote at most to its start. -/
theorem leadingQuotes_replaceMarked (cs : List Char) :
    leadingQuotes (replaceMarked language false [] cs) ≤ leadingQuotes cs + 1 := by
  induction cs with
  | nil => exact Nat.zero_le 1
  | cons c cs ih =>
    rw [replaceMarked]
    split
    · rename_i hc
      have hone : leadingQuotes (replaceMarked language false [c] cs) ≤ 1 :=
        leadingQuotes_replaceMarked_word (List.cons_ne_nil c []) (by simpa using hc)
      exact Nat.le_trans hone (Nat.le_add_left 1 _)
    · rw [if_neg (by simp), List.nil_append]
      by_cases hc : c = '"'
      · subst hc
        rw [leadingQuotes_quote, leadingQuotes_quote]
        exact Nat.add_le_add_right ih 1
      · rw [leadingQuotes_of_ne hc]
        exact Nat.zero_le _

/-- A text with a marker does not become the quoted form of a text that differs at most in case. -/
theorem replaceMarked_ne_enclose {column : List Char} (hmarker : marker ∈ cs)
    (hlower : column.map Char.toLower = cs.map Char.toLower) :
    replaceMarked language false [] cs ≠ enclose '"' column := by
  intro h
  have hquotes : leadingQuotes column = leadingQuotes cs := by
    rw [← leadingQuotes_toLower, hlower, leadingQuotes_toLower]
  have hother : ∃ c ∈ column, c ≠ '"' := by
    have hmem : marker.toLower ∈ column.map Char.toLower := by
      rw [hlower]
      exact List.mem_map_of_mem hmarker
    obtain ⟨c, hc, hceq⟩ := List.mem_map.mp hmem
    obtain rfl : c = marker := (toLower_eq_iff (by decide)).mp hceq
    exact ⟨marker, hc, by decide⟩
  -- The quotes at the start are counted: there is none.
  have hcount := @leadingQuotes_replaceMarked language cs
  rw [h, enclose, leadingQuotes_quote, leadingQuotes_double hother, hquotes] at hcount
  have hzero : leadingQuotes cs = 0 := by omega
  cases cs with
  | nil => simp at hmarker
  | cons c cs =>
    have hc : c ≠ '"' := by
      rintro rfl
      simp at hzero
    rw [replaceMarked] at h
    split at h
    · -- So a marked word is at the start, and the marker stands where the column ends or has `_`.
      rename_i hword
      obtain ⟨more, post, rest, hmore, rfl, htext⟩ :=
        eq_of_replaceMarked_eq_quote (List.cons_ne_nil c []) (by simpa using hword) h
      have hall : ∀ x ∈ c :: more, isWord x := by simpa using ⟨hword, hmore⟩
      have hwords : '"' ∉ c :: more := fun hmem => ne_quote_of_isWord (hall _ hmem) rfl
      rw [← List.cons_append, List.map_append, List.map_eq_append_iff] at hlower
      obtain ⟨before, after, rfl, hbefore, hafter⟩ := hlower
      obtain ⟨m, post', rfl, hm, -⟩ := List.map_eq_cons_iff.mp hafter
      obtain rfl : m = marker := (toLower_eq_iff (by decide)).mp hm
      have hclean : '"' ∉ before := by
        intro hmem
        have hlowered : Char.toLower '"' ∈ (c :: more).map Char.toLower := by
          rw [← hbefore]
          exact List.mem_map_of_mem hmem
        obtain ⟨x, hx, hxeq⟩ := List.mem_map.mp hlowered
        obtain rfl : x = '"' := (toLower_eq_iff (by decide)).mp hxeq
        exact hwords hx
      rw [double_append, double_append, double_of_not_mem hclean, List.singleton_append,
        double_of_not_mem hwords, List.append_assoc, List.append_assoc] at htext
      have hlength : before.length = (c :: more).length := by
        simpa using congrArg List.length hbefore
      have hnext := (List.append_inj htext hlength).2
      unfold suffix at hnext
      split at hnext
      · simp [double, marker] at hnext
      · simp [double, marker] at hnext
    · rw [if_neg (by simp), List.nil_append, enclose] at h
      exact hc (List.cons.inj h).1

/-- The column of a name that is not plain is not called like it. -/
theorem not_sameName_of_not_isPlain {language name column : String} (h : ¬ isPlain name)
    (hcolumn : resolve language name = quoteIdentifier column) : ¬ Row.sameName column name := by
  intro hsame
  have hlower : column.toList.map Char.toLower = name.toList.map Char.toLower := by
    have hmap : column.map Char.toLower = name.map Char.toLower := of_decide_eq_true hsame
    simpa [← String.toList_inj] using hmap
  have htext := congrArg String.toList hcolumn
  rw [quoteIdentifier, String.toList_ofList, resolve, sqlOf] at htext
  by_cases hmarker : name.toList.contains marker
  · rw [if_pos hmarker, localize, String.toList_ofList] at htext
    exact replaceMarked_ne_enclose (by simpa using hmarker) hlower htext
  · -- An expression is taken as it is, and so is shorter than with quotes around it.
    have hexpression : isExpression name := by
      rw [Bool.not_eq_true] at hmarker
      simpa [isPlain, -List.contains_eq_mem, hmarker] using h
    rw [if_neg hmarker, if_pos hexpression] at htext
    have hlength := congrArg List.length hlower
    have hdouble := length_le_double '"' column.toList
    simp only [htext, enclose, List.length_map, List.length_cons, List.length_append,
      List.length_nil] at hlength
    omega

end Column

/-! ## Rows -/

namespace Row

variable {row : Row} {column name : String}

theorem field?_of_lookup {v : Json} (h : row.lookup name = some v) : row.field? name = some v := by
  rw [field?, h]

/-- A cell whose column is not called like a name has no part in what is found under the name. -/
theorem field?_filter (h : ¬ sameName column name) (row : Row) :
    field? (row.filter (·.1 ≠ column)) name = row.field? name := by
  have hne : name ≠ column := by
    rintro rfl
    exact h (by simp [sameName])
  have hlookup : (row.filter (·.1 ≠ column)).lookup name = row.lookup name := by
    induction row with
    | nil => rfl
    | cons cell row ih =>
      by_cases hcell : cell.1 = column
      · have hother : (name == cell.1) = false := by simpa [hcell] using hne
        rw [List.filter_cons_of_neg (by simp [hcell]), ih, List.lookup_cons, hother]
      · rw [List.filter_cons_of_pos (by simp [hcell]), List.lookup_cons, List.lookup_cons, ih]
  have hfind : (row.filter (·.1 ≠ column)).find? (fun cell => sameName cell.1 name) =
      row.find? fun cell => sameName cell.1 name := by
    rw [List.find?_filter]
    congr 1
    funext cell
    by_cases hcell : cell.1 = column
    · simpa [hcell] using h
    · simp [hcell]
  rw [field?, field?, hlookup, hfind]

end Row

/-! ## Inserts -/

/-- The output of an insert that gives back its key is what the first row has under the name of the
key. -/
theorem Descriptor.ofResult_insert_key {d : Descriptor} {key : String}
    (hkey : d.primaryKey = some key) (hne : key ≠ "") (hreturning : d.returning.getD [] = [])
    (r : Result) : Output.ofResult d .insert r = .value (r.firstField? key) := by
  simp [Output.ofResult, hkey, hne, hreturning, Option.filter]

namespace Settings

variable {settings : Settings} {d : Descriptor} {key : String} {st : Statement}

/-- An insert that gives back its key asks for the column of the key. -/
theorem text_insert_key {s : Session} (hdialect : settings.dialect = .postgres)
    (hkey : d.primaryKey = some key) (hne : key ≠ "") (hreturning : d.returning.getD [] = [])
    (h : (settings.compileAs d .insert).outcome s = .ok st) :
    ∃ body, st.text = body ++ " RETURNING " ++ s.column d.languageCode key := by
  have hreturned : d.returned .insert = [key] := by
    rw [Descriptor.returned, Descriptor.returningColumns_eq, hreturning, hkey]
    simp [Option.filter, hne]
  rw [outcome_compileAs] at h
  obtain ⟨r, -, rfl⟩ := compileUnder_eq_ok h
  rw [Descriptor.text_planUnder, hreturned, hdialect]
  exact ⟨_, (String.append_assoc ..).symm⟩

/-- An insert gives back the key of its row exactly where the name of the key is plain. Then the
statement asks for the column of this name, and its value is the output. The column of any other
name is asked for and not found again: its cell has no influence on the output, and where a row has
no other cell there is no value. -/
theorem value_of_returned_key (history : List Call) (hdialect : settings.dialect = .postgres)
    (hkey : d.primaryKey = some key) (hne : key ≠ "") (hreturning : d.returning.getD [] = [])
    (h : (settings.compileAs d .insert).outcome (settings.session history) = .ok st) :
    (∃ body, st.text = body ++ " RETURNING " ++ Column.resolve d.languageCode key) ∧
    ∀ column, Column.resolve d.languageCode key = quoteIdentifier column →
      ∀ (rows : List Row) (affected : Nat),
        let output (row : Row) := Output.ofResult d .insert ⟨row :: rows, affected⟩
        (∀ v, output [(column, v)] = .value (if Column.isPlain key then some v else none)) ∧
        (Column.isPlain key → column = key ∧
          ∀ (row : Row) (v : Json), row.lookup column = some v → output row = .value (some v)) ∧
        (¬ Column.isPlain key → ∀ row, output (row.filter (·.1 ≠ column)) = output row) := by
  have hcolumns := Session.column_of_faithful (settings.faithful_session history)
  have htext := text_insert_key hdialect hkey hne hreturning h
  rw [hcolumns] at htext
  refine ⟨htext, fun column hcolumn rows affected => ?_⟩
  have houtput : ∀ row, Output.ofResult d .insert ⟨row :: rows, affected⟩ =
      .value (row.field? key) := fun row => Descriptor.ofResult_insert_key hkey hne hreturning _
  have hplain : Column.isPlain key → column = key := fun hplain =>
    (quoteIdentifier_injective ((Column.resolve_of_isPlain hplain _).symm.trans hcolumn)).symm
  have hother : ¬ Column.isPlain key → ∀ row : Row,
      Row.field? (row.filter (·.1 ≠ column)) key = row.field? key := fun hplain =>
    Row.field?_filter (Column.not_sameName_of_not_isPlain hplain hcolumn)
  simp only [houtput]
  refine ⟨fun v => ?_, fun h => ⟨hplain h, fun row v hv => ?_⟩, fun h row => by rw [hother h]⟩
  · by_cases h : Column.isPlain key
    · rw [if_pos h, hplain h, Row.field?_of_lookup List.lookup_cons_self]
    · rw [if_neg h, ← hother h, List.filter_cons_of_neg (by simp)]
      rfl
  · rw [Row.field?_of_lookup (hplain h ▸ hv)]

/-- An insert into a table with this key. -/
private def sampleKeyed (key : String) : Descriptor where
  table := "t"
  exec := .insert
  payload := some [⟨"name", .assign, some (.text "x")⟩]
  primaryKey := some key
  language := some "en"

/-- A plain key comes back. -/
theorem value_of_returned_key_plain :
    ∃ st, (compileAs { dialect := .postgres } (sampleKeyed "id") .insert).outcome {} = .ok st ∧
      (∃ body, st.text = body ++ " RETURNING " ++ quoteIdentifier "id") ∧
      Output.ofResult (sampleKeyed "id") .insert ⟨[[("id", .integer 7)]], 1⟩ =
        .value (some (.integer 7)) := by
  obtain ⟨st, hst⟩ : ∃ st,
      (compileAs { dialect := .postgres } (sampleKeyed "id") .insert).outcome {} = .ok st := by
    rw [outcome_compileAs]
    exact ⟨_, rfl⟩
  have hresolve : Column.resolve (sampleKeyed "id").languageCode "id" = quoteIdentifier "id" := by
    decide +kernel
  obtain ⟨htext, hcolumns⟩ :=
    @value_of_returned_key { dialect := .postgres } (sampleKeyed "id") "id" st [] rfl rfl
      (by decide) rfl hst
  obtain ⟨hvalue, -, -⟩ := hcolumns "id" hresolve [] 1
  rw [hresolve] at htext
  exact ⟨st, hst, htext, hvalue (.integer 7)⟩

/-- A localized key does not come back, though the statement asks for its column. -/
theorem not_value_of_localized_key :
    ∃ st, (compileAs { dialect := .postgres } (sampleKeyed "id§") .insert).outcome {} = .ok st ∧
      st.text = "INSERT INTO t (\"name\") VALUES ($1) RETURNING " ++ quoteIdentifier "id_en" ∧
      Output.ofResult (sampleKeyed "id§") .insert ⟨[[("id_en", .integer 7)]], 1⟩ =
        .value none := by
  have hother : Row.sameName "id_en" "id§" = false := by decide +kernel
  rw [outcome_compileAs, Descriptor.ofResult_insert_key rfl (by decide) rfl]
  refine ⟨_, rfl, by decide +kernel, ?_⟩
  have hlookup : List.lookup "id§" [("id_en", Json.integer 7)] = none := rfl
  simp [Result.firstField?, Row.field?, hlookup, hother]

end Settings

end FilterSql
