import FilterSql.Proofs.Literal
import FilterSql.Proofs.Mention
import FilterSql.Proofs.SortToken

/-!
# One column for a localized name

A word with the marker after it is one column in each language (`Column.physical`): the word, with
the language behind it if there is one. Wherever a statement mentions such a name, its SQL is that
column, in a select list under the word as its name and in an order with the direction
(`resolve_marked`, `field_marked`, `sortKey_marked`). Since the text of a statement is laid out from
the SQL of what its descriptor mentions, this is so in all places of all statements
(`Settings.localized_mentions`).

The columns of a payload are not among them. They are quoted as they are, with the marker, so that a
statement can write to one column and filter by another.
-/

namespace FilterSql

theorem quoteIdentifier_injective {a b : String} (h : quoteIdentifier a = quoteIdentifier b) :
    a = b := by
  have hdouble : Text.double '"' a.toList = Text.double '"' b.toList := by
    simpa [quoteIdentifier, Text.enclose] using congrArg String.toList h
  have hchars : a.toList = b.toList := by
    rw [← Text.undouble_double '"' a.toList, hdouble, Text.undouble_double]
  exact String.toList_inj.mp hchars

namespace Column

open Text

/-- A word with the marker after it. -/
def marked (word : String) : String :=
  word.push marker

/-- The column of a word in a language. -/
def physical (language word : String) : String :=
  quoteIdentifier (if language = "" then word else word ++ "_" ++ language)

/-- Whether a text is a word. -/
def IsWord (word : String) : Prop :=
  word ≠ "" ∧ word.toList.all isWord

instance (word : String) : Decidable (IsWord word) :=
  inferInstanceAs (Decidable (_ ∧ _))

variable {language word : String}

/-- The characters of a word go on to the word that is being read. -/
theorem replaceMarked_word (l : List Char) (named : Bool) {cs : List Char} (h : ∀ c ∈ cs, isWord c)
    (before rest : List Char) :
    replaceMarked l named before (cs ++ rest) = replaceMarked l named (before ++ cs) rest := by
  induction cs generalizing before with
  | nil => rw [List.nil_append, List.append_nil]
  | cons c cs ih =>
    obtain ⟨hc, hcs⟩ := List.forall_mem_cons.mp h
    rw [List.cons_append, replaceMarked, if_pos hc, ih hcs, List.append_assoc]
    rfl

/-- A marked word is replaced as a whole. -/
theorem sqlOf_marked (hword : IsWord word) (named : Bool) :
    sqlOf named language (marked word) =
      String.ofList (localized language.toList named word.toList) := by
  obtain ⟨hne, hchars⟩ := hword
  have hnil : word.toList ≠ [] := by simpa using hne
  have hmarker : isWord marker = false := by decide
  have hcontains : (marked word).toList.contains marker := by simp [marked]
  have hreplace : replaceMarked language.toList named [] (word.toList ++ [marker]) =
      localized language.toList named word.toList := by
    rw [replaceMarked_word _ _ (List.all_eq_true.mp hchars), List.nil_append, replaceMarked,
      if_neg (by simp [hmarker]), if_pos ⟨rfl, hnil⟩, replaceMarked, List.append_nil]
  rw [sqlOf, if_pos hcontains, localize, marked, String.toList_push, hreplace]

theorem toList_physical (language word : String) :
    (physical language word).toList = enclose '"' (word.toList ++ suffix language.toList) := by
  rw [physical, quoteIdentifier, String.toList_ofList]
  by_cases hlanguage : language = ""
  · simp [hlanguage, suffix]
  · have hnil : language.toList ≠ [] := by simpa using hlanguage
    simp [hlanguage, suffix, hnil]

/-- A marked word outside a select list is its column. -/
theorem resolve_marked (hword : IsWord word) :
    resolve language (marked word) = physical language word := by
  rw [← String.toList_inj, resolve, sqlOf_marked hword, toList_physical, localized]
  simp

/-- A marked word in a select list is its column, which keeps the word as its name. -/
theorem field_marked (hword : IsWord word) :
    field language (marked word) = physical language word ++
      if language = "" then "" else " AS " ++ quoteIdentifier word := by
  rw [← String.toList_inj, field, sqlOf_marked hword, String.toList_append, toList_physical,
    localized]
  by_cases hlanguage : language = ""
  · simp [hlanguage]
  · simp [hlanguage, quoteIdentifier]

/-! ## Directions -/

/-- A marked word is a sort token without a direction. -/
theorem splitSort_marked (word : String) :
    splitSort (marked word).toList = ((marked word).toList, false) := by
  have hending : ∀ parts ∈ splitLast? (marked word).toList, marker ∈ parts.2 := by
    have hreverse : (marked word).toList.reverse = marker :: word.toList.reverse := by
      simp [marked]
    unfold splitLast?
    rw [hreverse, List.takeWhile_cons_of_pos (by decide)]
    split <;> simp
  unfold splitSort
  cases hsplit : splitLast? (marked word).toList with
  | none => rfl
  | some parts =>
    have hnone := direction?_eq_none (hending parts hsplit) (.inr rfl)
    simp only [hnone]

/-- A marked word in an order is its column, ascending where it has no direction. -/
theorem sortKey_marked (hword : IsWord word) :
    sortKey language (marked word) = physical language word ++ " ASC" := by
  rw [sortKey, splitSort_marked]
  simp [resolve_marked hword]

/-- A marked word in an order is its column with the direction of the token. -/
theorem sortKey_marked_append (hword : IsWord word) {ending : String} {descending : Bool}
    (h : direction? ending.toList = some descending) :
    sortKey language (marked word ++ "_" ++ ending) =
      physical language word ++ if descending then " DESC" else " ASC" := by
  rw [sortKey, splitSort_append (marked word) h]
  simp [resolve_marked hword]

/-! ## Payloads -/

/-- No language has a marked word itself as its column. -/
theorem quoteIdentifier_marked_ne (language word : String) :
    quoteIdentifier (marked word) ≠ physical language word := by
  intro h
  have hname := congrArg String.toList (quoteIdentifier_injective h)
  by_cases hlanguage : language = ""
  · simp [hlanguage, marked] at hname
  · simp [hlanguage, marked, marker] at hname

end Column

/-- An insert writes to the column of an entry as it is. -/
theorem Entry.column_of_insertion? {e : Entry} {a : Assignment} (h : e.insertion? = some a) :
    a.column = quoteIdentifier e.column := by
  obtain ⟨v, -, hinserted⟩ := Option.bind_eq_some_iff.mp h
  obtain ⟨f, -, ha⟩ := Option.bind_eq_some_iff.mp hinserted
  obtain rfl := Option.some.inj ha
  rfl

/-- An update has the column of an entry as it is on both sides of the assignment. -/
theorem Entry.eq_of_update? {e : Entry} {a : Assignment} (h : e.update? = some a) :
    ∃ v, a = ⟨quoteIdentifier e.column, updated e.change (quoteIdentifier e.column) v⟩ := by
  obtain ⟨v, -, ha⟩ := Option.bind_eq_some_iff.mp h
  exact ⟨v, (Option.some.inj ha).symm⟩

/-! ## Statements -/

namespace Settings

open Column

/-- Every name that a statement mentions stands in its text with its SQL, in the same place for all
languages; and the SQL of a marked word is its column, also in a select list, where it has the word
as its name after it, and in an order, where it has the direction after it. But the columns of a
payload are not mentioned. An insert and an update quote them with the marker, and so never have the
column of the word. -/
theorem localized_mentions {settings : Settings} {d : Descriptor} {exec : Exec} {r : Request}
    {word : String} (hr : d.request settings.mode exec = .ok r) (hword : IsWord word) :
    (∃ body tail : Layout, body.mentions = r.mentions d ∧ tail.mentions = d.tailMentions exec ∧
      settings.LaysOut d exec r body tail) ∧
    ∀ language,
      Mention.sql language (.column (marked word)) = physical language word ∧
      Mention.sql language (.field (marked word)) =
        physical language word ++ (if language = "" then "" else " AS " ++ quoteIdentifier word) ∧
      Mention.sql language (.sort (marked word)) = physical language word ++ " ASC" ∧
      (∀ (ending : String) (descending : Bool), direction? ending.toList = some descending →
        Mention.sql language (.sort (marked word ++ "_" ++ ending)) =
          physical language word ++ if descending then " DESC" else " ASC") ∧
      (∀ (e : Entry) (a : Assignment), e.column = marked word →
        (e.insertion? = some a → a.column = quoteIdentifier (marked word)) ∧
        (e.update? = some a → ∃ v, a = ⟨quoteIdentifier (marked word),
          Entry.updated e.change (quoteIdentifier (marked word)) v⟩)) ∧
      quoteIdentifier (marked word) ≠ physical language word := by
  refine ⟨exists_layout hr, fun language => ⟨resolve_marked hword, field_marked hword,
    sortKey_marked hword, fun ending descending h => sortKey_marked_append hword h, ?_,
    quoteIdentifier_marked_ne language word⟩⟩
  rintro e a he
  rw [← he]
  exact ⟨Entry.column_of_insertion?, Entry.eq_of_update?⟩

/-- An update of a localized column by a filter on the same column, which is given back. -/
private def sampleTranslation : Descriptor where
  table := "t"
  exec := .update
  payload := some [⟨"title§", .assign, some (.text "x")⟩]
  conditions := [.filled "title§"]
  returning := some ["title§"]

private theorem exists_sampleTranslation :
    ∃ st, (compileAs { dialect := .postgres } { sampleTranslation with language := some "en" }
        .update).outcome {} = .ok st ∧
      st.text = "UPDATE t SET \"title§\" = $1 WHERE LENGTH(\"title_en\")>0" ++
        " RETURNING \"title_en\"" := by
  rw [outcome_compileAs]
  exact ⟨_, rfl, by decide +kernel⟩

/-- The column is one where it is filtered by and given back. -/
theorem localized_mentions_translation :
    ∃ st, ∃ body tail : Layout,
      (compileAs { dialect := .postgres } { sampleTranslation with language := some "en" }
        .update).outcome {} = .ok st ∧
      body.mentions = [.column "title§"] ∧ tail.mentions = [.column "title§"] ∧
      st.text = body.render (Mention.sql "en") ++ tail.render (Mention.sql "en") ∧
      Mention.sql "en" (.column "title§") = "\"title_en\"" := by
  obtain ⟨st, h, -⟩ := exists_sampleTranslation
  have hword : IsWord "title" := by decide
  obtain ⟨⟨body, tail, hbody, htail, hlaid⟩, hnames⟩ :=
    @localized_mentions { dialect := .postgres } sampleTranslation .update _ "title" rfl hword
  have htext := hlaid (some "en") [] {} st (Session.faithful_of_entries_nil rfl) (by simp) h
  have hcolumn := (hnames "en").1
  exact ⟨st, body, tail, h, hbody, htail, htext, hcolumn⟩

/-- The column is another one where it is written to. -/
theorem not_localized_payload :
    ∃ st, (compileAs { dialect := .postgres } { sampleTranslation with language := some "en" }
        .update).outcome {} = .ok st ∧
      st.text ≠ "UPDATE t SET " ++ physical "en" "title" ++ " = $1 WHERE LENGTH(" ++
        physical "en" "title" ++ ")>0 RETURNING " ++ physical "en" "title" := by
  obtain ⟨st, h, htext⟩ := exists_sampleTranslation
  refine ⟨st, h, ?_⟩
  rw [htext]
  decide +kernel

end Settings

end FilterSql
