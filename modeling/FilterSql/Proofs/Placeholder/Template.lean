import FilterSql.Proofs.Placeholder.Discipline
import FilterSql.Proofs.Substitution

/-!
# The placeholders of raw queries

A raw query brings parameters of its own, and its filter is numbered from the first after them. The
clause is numbered once and goes into every place of the template as it is, so that its placeholders
are in the text once for each place (`Fragment.placeholders_copies`), and a template with one place
or none has every placeholder of its filter once. A digit right after a place is left out: the last
placeholder of a clause would run into it.
-/

namespace FilterSql

open Text

namespace Fragment

variable {d : Dialect} {f : Fragment}

/-- A fragment that starts apart is read apart from what comes before it, also where it stands
several times. -/
theorem noDigitFirst_copies (d : Dialect) (hf : f.StartsApart) (n : Nat) (rest : List (List Char))
    (hrest : ∀ t ∈ rest, NoDigitFirst t) {after : List Char} (hafter : NoDigitFirst after) :
    NoDigitFirst (rest.flatMap ((f.sql d .parameterized n).toList ++ ·) ++ after) := by
  induction rest with
  | nil => exact hafter
  | cons t ts ih =>
    obtain ⟨ht, hts⟩ := List.forall_mem_cons.mp hrest
    rw [List.flatMap_cons, List.append_assoc, List.append_assoc]
    exact noDigitFirst_sql hf .parameterized n (noDigitFirst_append ht (ih hts))

/-- A fragment that stands several times, each time with the same numbers, has its placeholders as
many times. -/
theorem placeholders_copies (hf : f.Legible d) (hstart : f.StartsApart) (n : Nat)
    {rest : List (List Char)} (havoids : ∀ t ∈ rest, d.placeholderLead ∉ t)
    (hrest : ∀ t ∈ rest, NoDigitFirst t) {after : List Char} (hafter : NoDigitFirst after) :
    placeholders d.placeholderLead
        (rest.flatMap ((f.sql d .parameterized n).toList ++ ·) ++ after) =
      (List.replicate rest.length (List.range' (n + 1) f.values.length)).flatten ++
        placeholders d.placeholderLead after := by
  induction rest with
  | nil => rfl
  | cons t ts ih =>
    obtain ⟨hlead, havoids⟩ := List.forall_mem_cons.mp havoids
    obtain ⟨ht, hts⟩ := List.forall_mem_cons.mp hrest
    -- The last number of a copy ends with the copy: neither its text nor the next copy has a digit.
    have hnext := noDigitFirst_append ht (noDigitFirst_copies d hstart n ts hts hafter)
    rw [List.flatMap_cons, List.append_assoc, List.append_assoc, placeholders_sql hf n hnext,
      placeholders_append_of_notMem hlead, ih havoids hts, List.length_cons, List.replicate_succ,
      List.flatten_cons, List.append_assoc]

end Fragment

namespace Condition

variable {column : String → String} {cs : List Condition} {f : Fragment}

/-- The clause of a filter starts with its first word. -/
theorem startsApart_clauseFragment? (h : clauseFragment? column cs = some f) : f.StartsApart := by
  obtain ⟨g, rfl, -⟩ := exists_of_clauseFragment? h
  exact Fragment.startsApart_text rfl rfl g

/-- The clause of a filter has the values of the filter. -/
theorem values_clauseFragment? (h : clauseFragment? column cs = some f) :
    f.values = boundAll cs := by
  obtain ⟨g, rfl, hfilter⟩ := exists_of_clauseFragment? h
  rw [← values_filterFragment column, hfilter]
  rfl

/-- A filter without a clause binds nothing. -/
theorem boundAll_of_clauseFragment?_eq_none (h : clauseFragment? column cs = none) :
    boundAll cs = [] := by
  rw [← values_filterFragment column, filterFragment_of_clauseFragment?_eq_none h]
  rfl

/-- The clause of a filter is legible when the columns and the SQL of the caller in it have no
lead. -/
theorem legible_clauseFragment? {d : Dialect} (h : clauseFragment? column cs = some f)
    (hcolumn : ∀ name, d.Avoids name → d.Avoids (column name))
    (hs : ∀ s ∈ allStrings cs, d.Avoids s) : f.Legible d := by
  have hlegible := legible_filterFragment hcolumn cs hs
  have hword : d.Avoids "WHERE " := by cases d <;> decide
  obtain ⟨g, rfl, hfilter⟩ := exists_of_clauseFragment? h
  rw [hfilter] at hlegible
  exact ⟨hword, hlegible.2⟩

end Condition

/-- The placeholders of a template with its filter: those of the filter, once for each copy of its
clause, counted on from the parameters of the template. -/
theorem Draft.placeholders_template {dialect : Dialect} {template : String} {params : List Value}
    {column : String → String} {cs : List Condition}
    (hcolumn : ∀ name, dialect.Avoids name → dialect.Avoids (column name))
    (hs : ∀ s ∈ Condition.allStrings cs, dialect.Avoids s) (htemplate : dialect.Avoids template)
    (hdigit : ∀ t ∈ (Template.split (Template.parts template.toList)).2, NoDigitFirst t)
    {after : List Char} (hafter : NoDigitFirst after) :
    placeholders dialect.placeholderLead
        (((Draft.template template params (Condition.filterFragment column cs)).text dialect
          .parameterized).toList ++ after) =
      (List.replicate (Template.copies template.toList)
          (List.range' (params.length + 1) (Condition.boundAll cs).length)).flatten ++
        placeholders dialect.placeholderLead after := by
  have hlead : ¬(dialect.placeholderLead ∈ template.toList ∨ dialect.placeholderLead = ' ') := by
    rintro (h | h)
    · exact htemplate h
    · cases dialect <;> exact absurd h (by decide)
  rw [text_template]
  cases hclause : Condition.clauseFragment? column cs with
  | none =>
    have havoids : dialect.placeholderLead ∉ (Template.fill template "").toList := by
      rw [Template.fill, String.toList_ofList]
      exact fun h => hlead (Template.mem_fillChars_nil h)
    rw [Condition.boundAll_of_clauseFragment?_eq_none hclause]
    simp [placeholders_append_of_notMem havoids]
  | some f =>
    have hframe : ∀ t ∈ (Template.frame template.toList).1 :: (Template.frame template.toList).2,
        dialect.placeholderLead ∉ t :=
      fun t ht h => hlead (Template.mem_of_mem_frame ht h)
    obtain ⟨hfirst, hrest⟩ := List.forall_mem_cons.mp hframe
    rw [← Condition.values_clauseFragment? hclause, ← Template.length_frame]
    simp only [String.toList_ofList, List.append_assoc]
    rw [placeholders_append_of_notMem hfirst]
    exact Fragment.placeholders_copies (Condition.legible_clauseFragment? hclause hcolumn hs)
      (Condition.startsApart_clauseFragment? hclause) params.length hrest
      (Template.noDigitFirst_frame hdigit) hafter

namespace Descriptor

variable (names : Names) (d : Descriptor) (template : String) (dialect : Dialect)

/-- The plan of a raw query. -/
def queryPlan : Plan :=
  d.planUnder names .query (.template template)

/-- A raw query binds its own parameters, resolved, and then those of its filter. -/
theorem params_queryPlan :
    ((d.queryPlan names template).statement dialect .parameterized).params =
      d.params.map (fun v => .input v.resolve) ++
        (Condition.boundAll d.conditions).map .input := by
  cases dialect <;>
    simp [queryPlan, Plan.statement, planUnder, Request.draftUnder, Draft.inputs, Plan.outputs,
      Dialect.bindsReturned, returned, Names.listed, Function.comp_def]

/-- A raw query gives back no columns through a write, so that its text ends in its order and its
page. -/
theorem text_queryPlan (mode : BindMode) :
    ((d.queryPlan names template).statement dialect mode).text =
      (Draft.template template d.params (Condition.filterFragment names.column d.conditions)).text
          dialect mode ++
        (names.order (d.sort.getD []) ++
          dialect.page (d.take.filter (· > 0)) (d.skip.filter (· > 0))) := by
  have hreturned : d.returned .query = [] := rfl
  rw [queryPlan, text_planUnder, hreturned, List.map_nil, Dialect.returningAfter,
    String.append_empty, String.append_assoc]
  rfl

variable {d template dialect}

/-- The placeholders of a raw query are those of its filter, once for each copy of its clause. -/
theorem placeholders_queryPlan
    (hs : ∀ s ∈ template :: d.languageCode :: d.sort.getD [] ++ Condition.allStrings d.conditions,
      dialect.Avoids s)
    (hdigit : ∀ t ∈ (Template.split (Template.parts template.toList)).2, NoDigitFirst t) :
    placeholders dialect.placeholderLead
        ((d.queryPlan (.plain d.languageCode) template).statement dialect
          .parameterized).text.toList =
      (List.replicate (Template.copies template.toList)
        (List.range' (d.params.length + 1) (Condition.boundAll d.conditions).length)).flatten := by
  have hl : dialect.Avoids d.languageCode := hs _ (by simp)
  have horder : dialect.Avoids ((Names.plain d.languageCode).order (d.sort.getD [])) :=
    Names.avoids_order hl fun t ht => hs t (by simp [ht])
  have hpage := dialect.avoids_page dialect (d.take.filter (· > 0)) (d.skip.filter (· > 0))
  have hafter : NoDigitFirst ((Names.plain d.languageCode).order (d.sort.getD []) ++
      dialect.page (d.take.filter (· > 0)) (d.skip.filter (· > 0))).toList := by
    rw [String.toList_append]
    exact noDigitFirst_append (Names.noDigitFirst_order _ _) (dialect.noDigitFirst_page _ _)
  have hcolumn : ∀ name, dialect.Avoids name →
      dialect.Avoids ((Names.plain d.languageCode).column name) :=
    fun name hn => Dialect.avoids_resolve hl hn
  rw [text_queryPlan, String.toList_append,
    Draft.placeholders_template hcolumn (fun s h => hs s (by simp [h])) (hs _ (by simp)) hdigit
      hafter,
    placeholders_of_notMem ((dialect.avoids_append _ _).mpr ⟨horder, hpage⟩), List.append_nil]

end Descriptor

namespace Settings

/-- The first parameters of a raw query are those that it brings, resolved, and the others are those
of its filter, whose placeholders are counted on from there. They are in the text in this order,
once for each place of the template, or once at its end, when no text of the caller has the lead of
a placeholder in it and no place is followed by a digit. -/
theorem placeholders_compileAs_query {settings : Settings} {d : Descriptor} {st : Statement}
    {template : String} (hmode : settings.mode = .parameterized)
    (h : (settings.compileAs d .query).outcome {} = .ok st) (htemplate : d.query = some template)
    (hs : ∀ s ∈ template :: d.languageCode :: d.sort.getD [] ++ Condition.allStrings d.conditions,
      settings.dialect.Avoids s)
    (hdigit : ∀ t ∈ (Template.split (Template.parts template.toList)).2, NoDigitFirst t) :
    d.params.length ≤ st.params.length ∧
      st.params.take d.params.length = d.params.map (fun v => .input v.resolve) ∧
      placeholders settings.dialect.placeholderLead st.text.toList =
        (List.replicate (Template.copies template.toList)
          (List.range' (d.params.length + 1) (st.params.length - d.params.length))).flatten := by
  rw [outcome_compileAs, Session.names_of_entries_nil rfl] at h
  obtain ⟨r, hr, rfl⟩ := compileUnder_eq_ok h
  obtain ⟨template', htemplate', rfl⟩ := Descriptor.request_eq_ok hr
  obtain rfl : template = template' := Option.some.inj (htemplate.symm.trans htemplate')
  have hparams := d.params_queryPlan (.plain d.languageCode) template settings.dialect
  have hplaceholders := Descriptor.placeholders_queryPlan hs hdigit
  rw [Descriptor.queryPlan] at hparams hplaceholders
  rw [hmode, hparams, hplaceholders]
  refine ⟨by simp, ?_, by simp⟩
  rw [← List.length_map (f := fun v => Param.input v.resolve), List.take_left']
  rfl

/-- A template with a place in each of two selects. -/
private def sampleTemplate : String :=
  "SELECT * FROM a {where} UNION SELECT * FROM b {Where} "

/-- A query with a parameter of its own and two values in its filter. -/
private def sampleUnion : Descriptor where
  table := "t"
  exec := .query
  query := some sampleTemplate
  params := [.deferred (.int 7)]
  sort := some ["c_desc"]
  take := some 5
  conditions := [.among "c" [.int 1, .int 2]]

private theorem split_sampleTemplate :
    (Template.split (Template.parts sampleTemplate.toList)).2 =
      [" UNION SELECT * FROM b ".toList, " ".toList] := by
  decide +kernel

private theorem copies_sampleTemplate : Template.copies sampleTemplate.toList = 2 := by
  rw [Template.copies, ← Template.length_split, split_sampleTemplate]
  rfl

private theorem noDigitFirst_sampleTemplate :
    ∀ t ∈ (Template.split (Template.parts sampleTemplate.toList)).2, NoDigitFirst t := by
  rw [split_sampleTemplate]
  decide

/-- Both selects have the two values of the filter, after the parameter of the query. -/
theorem placeholders_compileAs_query_union :
    ∃ st, (compileAs {} sampleUnion .query).outcome {} = .ok st ∧
      st.params = [.input (.int 7), .input (.int 1), .input (.int 2)] ∧
      placeholders ':' st.text.toList = [2, 3, 2, 3] := by
  obtain ⟨st, h, hparams⟩ : ∃ st, (compileAs {} sampleUnion .query).outcome {} = .ok st ∧
      st.params = [.input (.int 7), .input (.int 1), .input (.int 2)] := by
    rw [outcome_compileAs]
    exact ⟨_, rfl, rfl⟩
  obtain ⟨-, -, hplaceholders⟩ :=
    placeholders_compileAs_query rfl h rfl (by decide) noDigitFirst_sampleTemplate
  refine ⟨st, h, hparams, ?_⟩
  rw [copies_sampleTemplate, hparams] at hplaceholders
  exact hplaceholders

/-- A template with two places has the placeholders of its filter twice, and not each once. -/
theorem not_placeholders_once :
    ∃ st, (compileAs {} sampleUnion .query).outcome {} = .ok st ∧
      (∀ s ∈ sampleTemplate :: sampleUnion.languageCode :: sampleUnion.sort.getD [] ++
        Condition.allStrings sampleUnion.conditions, Dialect.oracle.Avoids s) ∧
      placeholders ':' st.text.toList ≠
        List.range' (sampleUnion.params.length + 1)
          (st.params.length - sampleUnion.params.length) := by
  have hs : ∀ s ∈ sampleTemplate :: sampleUnion.languageCode :: sampleUnion.sort.getD [] ++
      Condition.allStrings sampleUnion.conditions, Dialect.oracle.Avoids s := by decide
  let st := (sampleUnion.queryPlan (.plain sampleUnion.languageCode) sampleTemplate).statement
    .oracle .parameterized
  have hplaceholders : placeholders ':' st.text.toList =
      (List.replicate (Template.copies sampleTemplate.toList)
        (List.range' (sampleUnion.params.length + 1)
          (Condition.boundAll sampleUnion.conditions).length)).flatten :=
    Descriptor.placeholders_queryPlan hs noDigitFirst_sampleTemplate
  have hparams := sampleUnion.params_queryPlan (.plain sampleUnion.languageCode) sampleTemplate
    .oracle
  refine ⟨st, ?_, hs, ?_⟩
  · rw [outcome_compileAs]
    rfl
  · rw [hplaceholders, copies_sampleTemplate, hparams]
    decide

end Settings

end FilterSql
