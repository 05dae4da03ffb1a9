import FilterSql.Proofs.Placeholder.Payload
import FilterSql.Proofs.Plan
import FilterSql.Proofs.Request

/-!
# Placeholders and parameters

`Descriptor.boundValues` is what an operation binds, read off the descriptor: first what the payload
binds and then what the filter binds. These are the input parameters of the statement, output
parameters come after them, and the text has the placeholders `1`, `2`, and so on up to the number
of parameters, each once and in this order. The last holds where no text of the caller has the lead
of a placeholder in it; `Descriptor.strings` are the texts of the caller that go into the statement.

The text of a plan is a fragment, then an order and a page without placeholders, and then the
columns that are given back. The fragment's values are the bound values (`inputs_draftUnder`), and
it is legible (`legible_draftUnder`).
-/

namespace FilterSql

namespace Descriptor

/-- The values that an operation binds, in order. -/
def boundValues (d : Descriptor) (exec : Exec) : List Value :=
  (match exec with
    | .insert | .update => (d.payload.getD []).flatMap Entry.bound
    | _ => []) ++
  if exec.isFiltered then Condition.boundAll d.conditions else []

/-- The keys of an aggregate operation. -/
def keys (d : Descriptor) : List String :=
  match d.scalar with
  | some spec => spec.key.toList ++ spec.key2.toList
  | none => []

/-- The texts of the caller that go into the statement of an operation. -/
def strings (d : Descriptor) (exec : Exec) : List String :=
  [d.qualifiedTable, d.languageCode] ++
  (match exec with
    | .find | .read | .list => d.fields.getD [] ++ d.sort.getD []
    | .insert | .update => ((d.payload.getD []).filter (·.isWritten exec)).flatMap Entry.strings
    | .scalar => d.keys
    | _ => []) ++
  (if exec.isFiltered then Condition.allStrings d.conditions else []) ++ d.returned exec

/-- The tokens of an order go into the statement of an operation with pages. -/
theorem mem_strings_of_sort {d : Descriptor} {exec : Exec} (he : exec ≠ .query)
    (hpaged : exec.isPaged) {t : String} (ht : t ∈ d.sort.getD []) : t ∈ d.strings exec := by
  cases exec with
  | find | read | list => simp [strings, ht]
  | query => exact absurd rfl he
  | _ => simp [Exec.isPaged] at hpaged

end Descriptor

namespace Dialect

variable {d : Dialect} {language : String}

/-- A select list of fields and a language without the lead has none. -/
theorem avoids_fieldList (hl : d.Avoids language) {fields : List String}
    (h : ∀ f ∈ fields, d.Avoids f) : d.Avoids (Column.fieldList language fields) := by
  intro hmem
  rcases Column.mem_fieldList hmem with hmem | ⟨f, hf, hmem⟩ | hmem
  · exact hl hmem
  · exact h f hf hmem
  · exact d.placeholderLead_notMem_added hmem

/-- An order of tokens and a language without the lead has none. -/
theorem avoids_sortList (hl : d.Avoids language) {tokens : List String}
    (h : ∀ t ∈ tokens, d.Avoids t) : d.Avoids (Column.sortList language tokens) := by
  intro hmem
  rcases Column.mem_sortList hmem with hmem | ⟨t, ht, hmem⟩ | hmem
  · exact hl hmem
  · exact h t ht hmem
  · exact d.placeholderLead_notMem_added hmem

theorem avoids_repr (d : Dialect) (n : Nat) : d.Avoids n.repr := by
  intro h
  rw [Nat.toList_repr] at h
  exact d.placeholderLead_notMem_toDigits n h

/-- A page has no placeholders. -/
theorem avoids_page (d d' : Dialect) (take skip : Option Nat) : d.Avoids (d'.page take skip) := by
  have hw : ∀ w ∈ [" OFFSET ", " ROWS FETCH NEXT ", " ROWS ONLY", " FETCH FIRST ", " ROWS",
      " LIMIT ", ""], d.Avoids w := by
    cases d <;> decide
  cases d' <;> cases take <;> cases skip <;> simp [page, hw, avoids_repr]

/-- A page does not start with a digit. -/
theorem noDigitFirst_page (d : Dialect) (take skip : Option Nat) :
    Text.NoDigitFirst (d.page take skip).toList := by
  have hblank : ∀ cs, Text.NoDigitFirst (' ' :: cs) := Text.noDigitFirst_cons rfl
  cases d <;> cases take <;> cases skip <;> simp [page, hblank, Text.noDigitFirst_nil]

theorem noDigitFirst_returning (d : Dialect) (columns outs : List String) :
    Text.NoDigitFirst (d.returning columns outs).toList := by
  have hblank : ∀ cs, Text.NoDigitFirst (' ' :: cs) := Text.noDigitFirst_cons rfl
  cases d <;> simp [returning, hblank]

/-- The columns that are given back have a placeholder each where the dialect binds them. -/
theorem placeholders_returning {columns : List String} (h : ∀ c ∈ columns, d.Avoids c)
    (ns : List Nat) :
    Text.placeholders d.placeholderLead (d.returning columns (ns.map d.placeholder)).toList =
      if d.bindsReturned then ns else [] := by
  have hcolumns := avoids_intercalate h
  cases d with
  | oracle =>
    have hbefore : Avoids oracle
        (" RETURNING " ++ String.intercalate "," columns ++ " INTO ") := by
      rw [avoids_append, avoids_append]
      exact ⟨⟨by decide, hcolumns⟩, by decide⟩
    rw [returning, String.toList_append, Text.placeholders_append_of_notMem hbefore,
      placeholders_intercalate]
    rfl
  | postgres =>
    have hall : Avoids postgres (" RETURNING " ++ String.intercalate "," columns) :=
      (avoids_append _ _ _).mpr ⟨by decide, hcolumns⟩
    rw [returning, Text.placeholders_of_notMem hall]
    rfl

end Dialect

namespace Plan

/-- The columns that are given back have the placeholders after those of the inputs. -/
theorem placeholders_returningSql {dialect : Dialect} {p : Plan}
    (h : ∀ c ∈ p.returning, dialect.Avoids c.2) :
    Text.placeholders dialect.placeholderLead (p.returningSql dialect .parameterized).toList =
      List.range' ((p.draft.inputs .parameterized).length + 1) (p.outputs dialect).length := by
  have hcolumns : ∀ s ∈ p.returning.map (·.2), dialect.Avoids s := by
    intro s hs
    obtain ⟨c, hc, rfl⟩ := List.mem_map.mp hs
    exact h c hc
  rw [returningSql_eq, outputs, Dialect.returningAfter.eq_def]
  cases hreturning : p.returning with
  | nil => simp [Text.placeholders]
  | cons c cs =>
    rw [hreturning] at hcolumns
    simp only [List.map_cons] at hcolumns ⊢
    rw [Dialect.placeholders_returning hcolumns]
    cases dialect <;> simp [Dialect.bindsReturned]

/-- The placeholders of a plan are its parameters in order, when its fragment is legible and no
other text in it has the lead. -/
theorem placeholders_text {dialect : Dialect} {p : Plan} {f : Fragment} (hf : p.draft = .direct f)
    (hlegible : f.Legible dialect) (horder : dialect.Avoids p.order)
    (hfirst : Text.NoDigitFirst p.order.toList)
    (hreturning : ∀ c ∈ p.returning, dialect.Avoids c.2) :
    Text.placeholders dialect.placeholderLead
        (p.statement dialect .parameterized).text.toList =
      List.range' 1 (p.statement dialect .parameterized).params.length := by
  have hinputs : p.draft.inputs .parameterized = f.values := by rw [hf]; rfl
  have hreturned := placeholders_returningSql hreturning
  have hsuffix : Text.NoDigitFirst (p.returningSql dialect .parameterized).toList := by
    rw [returningSql_eq, Dialect.returningAfter.eq_def]
    split
    · exact Text.noDigitFirst_nil
    · exact dialect.noDigitFirst_returning _ _
  have hpage := dialect.avoids_page dialect p.take p.skip
  have hpageFirst := dialect.noDigitFirst_page p.take p.skip
  calc Text.placeholders dialect.placeholderLead (p.statement dialect .parameterized).text.toList
    _ = Text.placeholders dialect.placeholderLead ((f.sql dialect .parameterized 0).toList ++
          (p.order.toList ++ ((dialect.page p.take p.skip).toList ++
            (p.returningSql dialect .parameterized).toList))) := by
      simp [statement, body, hf, Draft.text]
    _ = List.range' 1 f.values.length ++
          Text.placeholders dialect.placeholderLead
            (p.returningSql dialect .parameterized).toList := by
      rw [Fragment.placeholders_sql hlegible 0
          (Text.noDigitFirst_append hfirst (Text.noDigitFirst_append hpageFirst hsuffix)),
        Text.placeholders_append_of_notMem horder, Text.placeholders_append_of_notMem hpage]
    _ = List.range' 1 (p.statement dialect .parameterized).params.length := by
      -- The outputs are counted on from the inputs.
      rw [hreturned, hinputs, Nat.add_comm f.values.length 1, List.range'_append_1]
      simp [statement, hinputs]

end Plan

namespace Names

variable {d : Dialect} {language : String}

theorem avoids_selectList (hl : d.Avoids language) {fields : List String}
    (h : ∀ f ∈ fields, d.Avoids f) : d.Avoids ((plain language).selectList fields) := by
  cases fields with
  | nil => exact (by cases d <;> decide : d.Avoids "*")
  | cons f fs => exact Dialect.avoids_fieldList hl h

theorem avoids_operand (hl : d.Avoids language) {key : Option String}
    (h : ∀ k ∈ key, d.Avoids k) : d.Avoids ((plain language).operand key) := by
  cases key with
  | none => exact (by cases d <;> decide : d.Avoids "1")
  | some k => exact Dialect.avoids_resolve hl (h k rfl)

theorem avoids_order (hl : d.Avoids language) {tokens : List String}
    (h : ∀ t ∈ tokens, d.Avoids t) : d.Avoids ((plain language).order tokens) := by
  cases tokens with
  | nil => exact (by cases d <;> decide : d.Avoids "")
  | cons t ts =>
    have hword : d.Avoids " ORDER BY " := by cases d <;> decide
    exact (d.avoids_append _ _).mpr ⟨hword, Dialect.avoids_sortList hl h⟩

/-- An order does not start with a digit. -/
theorem noDigitFirst_order (names : Names) (tokens : List String) :
    Text.NoDigitFirst (names.order tokens).toList := by
  have hblank : ∀ cs, Text.NoDigitFirst (' ' :: cs) := Text.noDigitFirst_cons rfl
  cases tokens with
  | nil => exact Text.noDigitFirst_nil
  | cons t ts => simp [order, hblank]

end Names

namespace Request

variable {d : Descriptor} {mode : BindMode} {exec : Exec} {r : Request}

/-- The values of a draft are those that the operation binds. -/
theorem inputs_draftUnder (names : Names) (h : d.request mode exec = .ok r) (he : exec ≠ .query) :
    (r.draftUnder names d).inputs .parameterized = d.boundValues exec := by
  have hr := Descriptor.request_eq_ok h
  unfold Descriptor.boundValues
  cases exec with
  | query => exact absurd rfl he
  | insert =>
    obtain rfl : r = _ := hr
    simp [draftUnder, Draft.inputs, Exec.isFiltered, List.flatMap_map, Payload.values_insertions]
  | update =>
    obtain rfl : r = _ := hr
    simp [draftUnder, Draft.inputs, Exec.isFiltered, List.flatMap_map, Payload.values_updates]
  | scalar =>
    obtain ⟨spec, -, ⟨key, -, rfl⟩ | ⟨function, key, -, rfl⟩⟩ := Descriptor.scalarRequest_eq_ok hr
    · simp [draftUnder, Draft.inputs, Exec.isFiltered]
    · simp [draftUnder, Draft.inputs, Exec.isFiltered]
  | _ =>
    obtain rfl : r = _ := hr
    simp [draftUnder, Draft.inputs, Exec.isFiltered]

/-- A draft is legible when no text of the caller has the lead of a placeholder in it. -/
theorem legible_draftUnder {dialect : Dialect} (h : d.request mode exec = .ok r)
    (he : exec ≠ .query) (hs : ∀ s ∈ d.strings exec, dialect.Avoids s) :
    ∃ f, r.draftUnder (.plain d.languageCode) d = .direct f ∧ f.Legible dialect := by
  have hr := Descriptor.request_eq_ok h
  have htable : dialect.Avoids d.qualifiedTable := hs _ (by simp [Descriptor.strings])
  have hl : dialect.Avoids d.languageCode := hs _ (by simp [Descriptor.strings])
  have hcolumn : ∀ name, dialect.Avoids name →
      dialect.Avoids ((Names.plain d.languageCode).column name) :=
    fun name hn => Dialect.avoids_resolve hl hn
  have hfilter : exec.isFiltered = true →
      (Condition.filterFragment (Names.plain d.languageCode).column d.conditions).Legible
        dialect := by
    intro hf
    refine Condition.legible_filterFragment hcolumn d.conditions fun s h => hs s ?_
    simp [Descriptor.strings, hf, h]
  have hw : ∀ w ∈ ["SELECT ", " FROM ", "SELECT COUNT(1) AS COUNT FROM ", "INSERT INTO ", " (",
      ") VALUES (", ")", "UPDATE ", " SET ", "DELETE FROM ", "DROP TABLE ", "TRUNCATE TABLE ", "(",
      ") AS VALUE FROM ", " AS VALUE FROM ", ", ", "SUM(", "COUNT(1)", " GROUP BY ", ","],
      dialect.Avoids w := by
    cases dialect <;> decide
  cases exec with
  | query => exact absurd rfl he
  | find | read | list =>
    obtain rfl : r = _ := hr
    have hfields : dialect.Avoids
        ((Names.plain d.languageCode).selectList (d.fields.getD [])) :=
      Names.avoids_selectList hl fun f hf => hs f (by simp [Descriptor.strings, hf])
    exact ⟨_, rfl, by simp [hw, hfields, htable], hfilter rfl⟩
  | count | check =>
    obtain rfl : r = _ := hr
    exact ⟨_, rfl, by simp [hw, htable], hfilter rfl⟩
  | remove =>
    obtain rfl : r = _ := hr
    exact ⟨_, rfl, by simp [hw, htable], hfilter rfl⟩
  | drop | truncate =>
    obtain rfl : r = _ := hr
    exact ⟨_, rfl, by simp [hw, htable], trivial⟩
  | insert =>
    obtain rfl : r = _ := hr
    obtain ⟨hcolumns, hvalues⟩ := Payload.legible_insertions (p := d.payload.getD []) fun s h =>
      hs s (by simp only [Descriptor.strings, List.mem_append, h, true_or, or_true])
    refine ⟨_, rfl, by simp [hw, htable, hcolumns], ?_⟩
    exact hvalues.append ⟨hw _ (by simp), trivial⟩ (Fragment.startsApart_text rfl rfl [])
  | update =>
    obtain rfl : r = _ := hr
    have hassignments := Payload.legible_updates (p := d.payload.getD []) fun s h =>
      hs s (by simp only [Descriptor.strings, List.mem_append, h, true_or, or_true])
    refine ⟨_, rfl, by simp [hw, htable], ?_⟩
    exact hassignments.append (hfilter rfl) (Condition.startsApart_filterFragment _)
  | scalar =>
    obtain ⟨spec, hspec, hkeys⟩ := Descriptor.scalarRequest_eq_ok hr
    have hkey : ∀ k, spec.key = some k → dialect.Avoids k := fun k hk =>
      hs k (by simp [Descriptor.strings, Descriptor.keys, hspec, hk])
    have hkey2 : ∀ k, spec.key2 = some k → dialect.Avoids k := fun k hk =>
      hs k (by simp [Descriptor.strings, Descriptor.keys, hspec, hk])
    obtain ⟨key, hk, rfl⟩ | ⟨function, key, hk, rfl⟩ := hkeys
    · have hgroup := hcolumn key (hkey key hk)
      have hend : Fragment.StartsApart
          [.text (" GROUP BY " ++ (Names.plain d.languageCode).column key)] :=
        Fragment.startsApart_text String.toList_append rfl []
      refine ⟨_, rfl, ?_, (hfilter rfl).append ⟨by simp [hw, hgroup], trivial⟩ hend⟩
      cases h2 : Descriptor.presentKey spec.key2 with
      | none => simp [hw, hgroup, htable]
      | some k =>
        have hsum := hcolumn k (hkey2 k (Descriptor.presentKey_eq_some h2))
        simp [hw, hgroup, hsum, htable]
    · have hoperand : dialect.Avoids ((Names.plain d.languageCode).operand key) :=
        Names.avoids_operand hl fun k h => hkey k (hk k h)
      have hfunction : dialect.Avoids function.sql := by
        cases dialect <;> cases function <;> decide
      exact ⟨_, rfl, by simp [hw, hfunction, hoperand, htable], hfilter rfl⟩

end Request

namespace Settings

variable {settings : Settings} {d : Descriptor} {exec : Exec} {st : Statement}

/-- The parameters of a statement are the values of the payload, then those of the filter, and on
Oracle then the columns that are given back. Its text has a placeholder for each, numbered from 1 in
this order, when no text of the caller in it has the lead of a placeholder. -/
theorem params_and_placeholders (he : exec ≠ .query) (hmode : settings.mode = .parameterized)
    (h : (settings.compileAs d exec).outcome {} = .ok st) :
    st.params = (d.boundValues exec).map .input ++
        (match settings.dialect with
          | .oracle => (d.returned exec).map .output
          | .postgres => []) ∧
      ((∀ s ∈ d.strings exec, settings.dialect.Avoids s) →
        Text.placeholders settings.dialect.placeholderLead st.text.toList =
          List.range' 1 st.params.length) := by
  rw [outcome_compileAs, Session.names_of_entries_nil rfl] at h
  obtain ⟨r, hr, rfl⟩ := compileUnder_eq_ok h
  rw [hmode] at hr ⊢
  -- The parameters are read off the draft under any names, the text off that under plain names.
  have hinputs := Request.inputs_draftUnder (.plain d.languageCode) hr he
  have hreturned : ((Names.plain d.languageCode).listed (d.returned exec)).map (·.1) =
      d.returned exec := by
    simp [Names.listed, Function.comp_def]
  constructor
  · simp only [Plan.statement, Descriptor.planUnder, Plan.outputs, hinputs, hreturned]
    cases settings.dialect <;> rfl
  · intro hs
    have hl : settings.dialect.Avoids d.languageCode := hs _ (by simp [Descriptor.strings])
    obtain ⟨f, hf, hlegible⟩ := Request.legible_draftUnder hr he hs
    refine Plan.placeholders_text hf hlegible ?_ ?_ ?_
    · rw [Descriptor.planUnder_order]
      split
      · rename_i hpaged
        exact Names.avoids_order hl fun t ht => hs t (Descriptor.mem_strings_of_sort he hpaged ht)
      · cases settings.dialect <;> decide
    · rw [Descriptor.planUnder_order]
      split
      · exact Names.noDigitFirst_order _ _
      · exact Text.noDigitFirst_nil
    · intro c hc
      obtain ⟨name, hname, rfl⟩ := List.mem_map.mp hc
      exact Dialect.avoids_resolve hl (hs name (by simp [Descriptor.strings, hname]))

/-- An update of a falsy operand and a truth value, where a column is null and a row has an owner or
a name. -/
private def sampleUpdate : Descriptor where
  table := "t"
  exec := .update
  payload := some [⟨"n", .add, some (.text "")⟩, ⟨"b", .toggle, some .null⟩]
  conditions :=
    [.compare "a" .eq .null,
      .any [.permit "p" [.int 7, .int 8] true (some (.text "me")), .search "s" "x" .anywhere]]
  returning := some ["id"]

/-- Six parameters: an operand that counts as zero, an owner before its access list, a pattern, and
the column that is given back. -/
theorem params_and_placeholders_update :
    ∃ st, (Settings.compileAs {} sampleUpdate .update).outcome {} = .ok st ∧
      st.params = [.input (.int 0), .input (.text "me"), .input (.int 7), .input (.int 8),
        .input (.text "%X%"), .output "id"] ∧
      Text.placeholders ':' st.text.toList = [1, 2, 3, 4, 5, 6] := by
  obtain ⟨st, h⟩ : ∃ st, (Settings.compileAs {} sampleUpdate .update).outcome {} = .ok st := by
    rw [outcome_compileAs]
    exact ⟨_, rfl⟩
  obtain ⟨hparams, hnumbers⟩ := params_and_placeholders (by decide) rfl h
  refine ⟨st, h, hparams, ?_⟩
  have hread := hnumbers (by decide)
  rw [hparams] at hread
  exact hread

end Settings

end FilterSql
