import FilterSql.Proofs.Plan
import FilterSql.Proofs.Pruning

/-!
# The filter of a write

An update and a removal change the rows that their filter lets through, and every row where there is
no filter. A strict compiler refuses what it does not know, so that a filter vanishes from what it
writes only if there is nothing in it: `Condition.allHollow` says that a filter is made of empty
groups, at every depth. `emits_of_known` shows, by induction over the conditions, that without
unknown kinds everything else emits SQL, and `text_planUnder_of_write` finds the text of the filter
in the statement, between what it does (`Descriptor.writeFragment`) and the columns that it gives
back.
-/

namespace FilterSql

namespace Condition

mutual

/-- Whether a condition is an empty group, or a group of nothing but such groups. -/
def isHollow : Condition → Bool
  | any conditions => allHollow conditions
  | _ => false

/-- Whether there is nothing but empty groups in a list of conditions. -/
def allHollow : List Condition → Bool
  | [] => true
  | c :: cs => isHollow c && allHollow cs

end

/-- Conditions without unknown kinds emit SQL unless they are empty groups. -/
theorem emits_of_known :
    (∀ c : Condition, c.unknown? = none → c.emits = !c.isHollow) ∧
      ∀ cs, firstUnknown? cs = none → emitsAny cs = !allHollow cs := by
  apply induction_both
  case test =>
    intro c hc _
    cases c with
    | any _ | unknown _ => exact absurd hc Bool.false_ne_true
    | _ => rfl
  case unknown =>
    intro kind h
    simp [unknown?] at h
  case any => exact fun cs ih => ih
  case nil => exact fun _ => rfl
  case cons =>
    intro c cs hc hcs h
    obtain ⟨hhead, htail⟩ := Option.or_eq_none_iff.mp h
    rw [emitsAny, allHollow, hc hhead, hcs htail, Bool.not_and]

/-- Conditions without unknown kinds have clauses unless there is nothing but empty groups. -/
theorem clauses_eq_nil_of_known (column : String → String) {cs : List Condition}
    (h : firstUnknown? cs = none) : clauses column cs = [] ↔ allHollow cs := by
  rw [← List.isEmpty_iff, (isSome_clause? column).2, emits_of_known.2 cs h, Bool.not_not]

end Condition

namespace Descriptor

variable {d : Descriptor} {exec : Exec} {r : Request}

/-- What an update or a removal does to the rows of its filter. -/
def writeFragment (d : Descriptor) (exec : Exec) : Fragment :=
  if exec = .update then
    .text ("UPDATE " ++ d.qualifiedTable ++ " SET ") ::
      Fragment.join "," ((d.payload.getD []).updates.map Assignment.fragment)
  else [.text ("DELETE FROM " ++ d.qualifiedTable)]

/-- The text of an update or a removal is what it does, its filter, and what it gives back. -/
theorem text_planUnder_of_write {names : Names} {mode : BindMode}
    (he : exec = .remove ∨ exec = .update) (hr : d.request mode exec = .ok r) (dialect : Dialect) :
    ((d.planUnder names exec r).statement dialect mode).text =
      (d.writeFragment exec).sql dialect mode 0 ++
          (Condition.filterFragment names.column d.conditions).sql dialect mode
            ((d.writeFragment exec).params mode).length ++
        dialect.returningAfter ((d.planUnder names exec r).statement dialect mode).values.length
          ((d.returned exec).map names.column) := by
  -- Neither operation has an order or a page, so that nothing else is in the text.
  have hdraft : r.draftUnder names d =
      .direct (d.writeFragment exec ++ Condition.filterFragment names.column d.conditions) := by
    obtain rfl | rfl := he
    · obtain rfl : r = .remove := request_eq_ok hr
      rfl
    · obtain rfl : r = .update _ := request_eq_ok hr
      rfl
  have hpaged : exec.isPaged = false := by
    obtain rfl | rfl := he <;> rfl
  have hcolumns : (names.listed (d.returned exec)).map (·.2) =
      (d.returned exec).map names.column := by
    simp [Names.listed, Function.comp_def]
  rw [Plan.values_statement]
  simp only [Plan.statement, Plan.returningSql_eq, Plan.body, planUnder, hpaged, hdraft, hcolumns,
    Draft.text, Fragment.sql_append, Dialect.page_none, Bool.false_eq_true, if_false,
    String.append_empty, Nat.zero_add]

end Descriptor

namespace Settings

/-- What a strict compiler makes of an update or a removal has its filter in it, as a clause after
` WHERE `, unless there is nothing but empty groups in the filter; then there is no clause. -/
theorem where_of_strict {settings : Settings} {d : Descriptor} {exec : Exec} {s : Session}
    {st : Statement} (hstrict : settings.strict) (he : exec = .remove ∨ exec = .update)
    (h : (settings.compileAs d exec).outcome s = .ok st) :
    ∃ clause,
      st.text = (d.writeFragment exec).sql settings.dialect settings.mode 0 ++ clause ++
        settings.dialect.returningAfter st.values.length
          ((d.returned exec).map (s.column d.languageCode)) ∧
      (Condition.allHollow d.conditions = false →
        ∃ body, body ≠ "" ∧ clause = " WHERE " ++ body) ∧
      (Condition.allHollow d.conditions = true → clause = "") := by
  rw [outcome_compileAs] at h
  obtain ⟨r, hr, rfl⟩ := compileUnder_eq_ok h
  have hfiltered : r.isFiltered := by
    obtain rfl | rfl := he
    · obtain rfl : r = .remove := Descriptor.request_eq_ok hr
      rfl
    · obtain rfl : r = .update _ := Descriptor.request_eq_ok hr
      rfl
  -- The filter has been looked at, and nothing in it was refused.
  have hknown : Condition.firstUnknown? d.conditions = none := by
    have hunknown := unknown?_of_strict hstrict hr h
    rwa [Request.unknown?, if_pos hfiltered] at hunknown
  have hclauses := Condition.clauses_eq_nil_of_known (s.column d.languageCode) hknown
  refine ⟨_, Descriptor.text_planUnder_of_write he hr settings.dialect, ?_, ?_⟩
  · intro hhollow
    have hsome : Condition.clauses (s.column d.languageCode) d.conditions ≠ [] :=
      fun hnil => Bool.false_ne_true (hhollow.symm.trans (hclauses.mp hnil))
    exact Condition.sql_filterFragment_of_ne_nil _ _ _ hsome
  · intro hhollow
    exact Condition.sql_filterFragment_of_nil _ _ _ (hclauses.mpr hhollow)

/-- An update with groups in its filter, of which one has a test in it. -/
private def sampleGuarded : Descriptor where
  table := "t"
  exec := .update
  payload := some [⟨"b", .add, some (.int 1)⟩]
  conditions := [.any [.any []], .any [.any [.search "a" "x" .start], .any []]]
  returning := some ["id"]

/-- The update has one clause, between the assignment and the column that is given back. -/
theorem where_of_strict_groups :
    ∃ st body, (compileAs { strict := true } sampleGuarded .update).outcome {} = .ok st ∧
      body ≠ "" ∧
      st.text = "UPDATE t SET \"b\" = COALESCE(\"b\",0) + :1 WHERE " ++ body ++
        " RETURNING \"id\" INTO :3" := by
  obtain ⟨st, h⟩ : ∃ st,
      (compileAs { strict := true } sampleGuarded .update).outcome {} = .ok st := by
    rw [outcome_compileAs]
    exact ⟨_, rfl⟩
  obtain ⟨clause, htext, hclause, -⟩ := where_of_strict rfl (.inr rfl) h
  obtain ⟨body, hbody, rfl⟩ := hclause rfl
  refine ⟨st, body, h, hbody, ?_⟩
  have hvalues : st.values.length = 2 := by
    rw [outcome_compileAs] at h
    obtain rfl := Except.ok.inj h
    rfl
  have hstart : (sampleGuarded.writeFragment .update).sql .oracle .parameterized 0 =
      "UPDATE t SET \"b\" = COALESCE(\"b\",0) + :1" := by decide +kernel
  have hreturning : Dialect.returningAfter .oracle 2
      ((sampleGuarded.returned .update).map (({} : Session).column sampleGuarded.languageCode)) =
        " RETURNING \"id\" INTO :3" := by decide +kernel
  calc st.text
    _ = (sampleGuarded.writeFragment .update).sql .oracle .parameterized 0 ++ (" WHERE " ++ body) ++
          Dialect.returningAfter .oracle 2 ((sampleGuarded.returned .update).map
            (({} : Session).column sampleGuarded.languageCode)) := by
      rw [htext, hvalues]
    _ = "UPDATE t SET \"b\" = COALESCE(\"b\",0) + :1 WHERE " ++ body ++
          " RETURNING \"id\" INTO :3" := by
      rw [hstart, hreturning, ← String.append_assoc]
      rfl

/-- A removal with a filter that is an empty group. -/
private def sampleEmptyGroup : Descriptor where
  table := "t"
  exec := .remove
  conditions := [.any []]

/-- The filter of an empty group is no clause, so that a strict compiler removes every row. -/
theorem not_where_of_strict :
    ¬ ∀ (settings : Settings) (d : Descriptor) (exec : Exec) (s : Session) (st : Statement),
      settings.strict → exec = .remove ∨ exec = .update → d.conditions ≠ [] →
        (settings.compileAs d exec).outcome s = .ok st →
          " WHERE ".toList <:+: st.text.toList := by
  intro hall
  obtain ⟨st, h, htext⟩ : ∃ st,
      (compileAs { strict := true } sampleEmptyGroup .remove).outcome {} = .ok st ∧
        st.text = "DELETE FROM t" := by
    rw [outcome_compileAs]
    exact ⟨_, rfl, by decide +kernel⟩
  have hwhere := hall { strict := true } sampleEmptyGroup .remove {} st rfl (.inl rfl)
    (List.cons_ne_nil _ _) h
  have hnone : ¬ " WHERE ".toList <:+: "DELETE FROM t".toList := by decide +kernel
  exact hnone (htext ▸ hwhere)

end Settings

end FilterSql
