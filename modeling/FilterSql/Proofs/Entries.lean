import FilterSql.Proofs.Flaw
import FilterSql.Proofs.Localized
import FilterSql.Proofs.Placeholder.Payload
import Mathlib.Data.List.Forall2

/-!
# One payload in an insert and in an update

An insert writes the entries of a payload that have a value and are not kept for updates, an update
all that have a value. Both go through the entries in order and keep to each of them
(`Entry.Gives`): what is written is the quoted column of the entry and the SQL of a fragment that
binds what the entry binds. So neither a column nor a placeholder can get to the value of another
entry, and both statements bind the same values (`Descriptor.gives_payload`). Since an insert leaves
out more, a payload that has nothing for an update has nothing for an insert either.
-/

namespace FilterSql

namespace Entry

/-- What is written for an entry, with `write` for its fragment: its quoted column, and the SQL of
the fragment, which binds what the entry binds. -/
def Gives (write : Entry → Option Assignment) (dialect : Dialect) (mode : BindMode) (e : Entry)
    (column sql : String) : Prop :=
  column = quoteIdentifier e.column ∧ ∃ (f : Fragment) (n : Nat),
    write e = some ⟨column, f⟩ ∧ f.values = e.bound ∧ sql = f.sql dialect mode n

/-- An insert writes an entry that has a value, unless it is kept for updates. -/
theorem isSome_insertion? (e : Entry) :
    e.insertion?.isSome = decide (e.value.isSome ∧ e.change ≠ .rawUpdate) := by
  obtain ⟨column, change, value⟩ := e
  cases value with
  | none => cases change <;> rfl
  | some v => cases change <;> rfl

/-- An update writes an entry that has a value. -/
theorem isSome_update? (e : Entry) : e.update?.isSome = e.value.isSome := by
  obtain ⟨column, change, value⟩ := e
  cases value <;> rfl

variable {dialect : Dialect} {mode : BindMode} {e : Entry} {a : Assignment}

theorem gives_of_insertion? (h : e.insertion? = some a) (n : Nat) :
    e.Gives insertion? dialect mode a.column (a.value.sql dialect mode n) := by
  have hvalues := e.values_insertion?
  rw [h] at hvalues
  exact ⟨column_of_insertion? h, a.value, n, h, by simpa using hvalues, rfl⟩

theorem gives_of_update? (h : e.update? = some a) (n : Nat) :
    e.Gives update? dialect mode a.column (a.value.sql dialect mode n) := by
  have hvalues := e.values_update?
  rw [h] at hvalues
  obtain ⟨v, ha⟩ := eq_of_update? h
  have hcolumn : a.column = quoteIdentifier e.column := by rw [ha]
  exact ⟨hcolumn, a.value, n, h, by simpa [Assignment.fragment] using hvalues, rfl⟩

end Entry

namespace Payload

variable (p : Payload) (dialect : Dialect) (mode : BindMode) (n : Nat)

/-- The columns and the texts that are written for the entries of a payload stand in the order of
the entries, a pair for each that is written. -/
theorem forall₂_sqlEach (write : Entry → Option Assignment) (f : Assignment → Fragment) :
    List.Forall₂
      (fun e written => ∃ a m, write e = some a ∧ written = (a.column, (f a).sql dialect mode m))
      (p.filter fun e => (write e).isSome)
      (((p.filterMap write).map (·.column)).zip
        (Fragment.sqlEach dialect mode n ((p.filterMap write).map f))) := by
  induction p generalizing n with
  | nil => exact .nil
  | cons e p ih =>
    cases he : write e with
    | none =>
      -- An entry that is left out moves no column and no placeholder of the next.
      rw [List.filter_cons_of_neg (by simp [he]), List.filterMap_cons_none he]
      exact ih n
    | some a =>
      rw [List.filter_cons_of_pos (by simp [he]), List.filterMap_cons_some he]
      exact .cons ⟨a, n, he, rfl⟩ (ih _)

/-- An insert has a column and a value for each entry that it writes. -/
theorem gives_insertions :
    List.Forall₂ (fun e written => e.Gives Entry.insertion? dialect mode written.1 written.2)
      (p.filter fun e => e.value.isSome ∧ e.change ≠ .rawUpdate)
      ((p.insertions.map (·.column)).zip
        (Fragment.sqlEach dialect mode n (p.insertions.map (·.value)))) := by
  have hwritten := p.forall₂_sqlEach dialect mode n Entry.insertion? (·.value)
  simp only [Entry.isSome_insertion?] at hwritten
  refine hwritten.imp fun e written h => ?_
  obtain ⟨a, m, ha, rfl⟩ := h
  exact Entry.gives_of_insertion? ha m

/-- An update has an assignment for each entry that it writes. -/
theorem gives_updates :
    List.Forall₂
      (fun e assignment => ∃ sql, assignment = quoteIdentifier e.column ++ " = " ++ sql ∧
        e.Gives Entry.update? dialect mode (quoteIdentifier e.column) sql)
      (p.filter (·.value.isSome))
      (Fragment.sqlEach dialect mode n (p.updates.map Assignment.fragment)) := by
  have hwritten := p.forall₂_sqlEach dialect mode n Entry.update? Assignment.fragment
  simp only [Entry.isSome_update?] at hwritten
  have hlength : (Fragment.sqlEach dialect mode n (p.updates.map Assignment.fragment)).length =
      (p.updates.map (·.column)).length := by
    rw [Fragment.length_sqlEach, List.length_map, List.length_map]
  -- An assignment has its column in it, so that the texts alone say what the pairs do.
  rw [← List.map_snd_zip (Nat.le_of_eq hlength), List.forall₂_map_right_iff]
  refine hwritten.imp fun e written h => ?_
  obtain ⟨a, m, ha, rfl⟩ := h
  have hgives := @Entry.gives_of_update? dialect mode e a ha m
  have hcolumn := hgives.1
  rw [hcolumn] at hgives
  refine ⟨a.value.sql dialect mode m, ?_, hgives⟩
  rw [← hcolumn]
  rfl

end Payload

/-- A payload that has nothing for an update has nothing for an insert. -/
theorem Payload.insertions_eq_nil {p : Payload} (h : p.updates = []) : p.insertions = [] :=
  insertions_eq_nil_iff.mpr fun e he => .inl (updates_eq_nil_iff.mp h e he)

namespace Descriptor

variable (settings : Settings) (d : Descriptor) (s : Session)

/-- Compiling is refused for what the request is refused for, and otherwise for nothing but a
condition of an unknown kind. -/
theorem outcome_of_request (exec : Exec) :
    match d.request settings.mode exec with
    | .error e => (settings.compileAs d exec).outcome s = .error e
    | .ok _ => ∀ e, (settings.compileAs d exec).outcome s = .error e →
        ∃ kind, e = .unknownCondition kind := by
  rw [Settings.outcome_compileAs, Settings.compileUnder]
  cases d.request settings.mode exec with
  | error e => rfl
  | ok r =>
    intro e h
    rw [Except.bind, Condition.checked_map] at h
    exact Condition.eq_of_checked_eq_error h

/-- An insert is refused as empty where it has a table and nothing to write. -/
theorem emptyPayload_insert_iff :
    (settings.compileAs d .insert).outcome s = .error (.emptyPayload .insert d.table) ↔
      ¬ Text.isBlankText d.table ∧ (d.payload.getD []).insertions = [] := by
  have houtcome := d.outcome_of_request settings s .insert
  by_cases htable : Text.isBlankText d.table
  · have hrequest : d.request settings.mode .insert =
        .error (.invalidDescriptor "table name is empty") := by
      simp [request, htable]
    rw [hrequest] at houtcome
    simp [houtcome, htable]
  · cases hwritten : (d.payload.getD []).insertions with
    | nil =>
      have hrequest : d.request settings.mode .insert =
          .error (.emptyPayload .insert d.table) := by
        simp [request, htable, hwritten]
      rw [hrequest] at houtcome
      simp [houtcome, htable]
    | cons a as =>
      have hrequest : d.request settings.mode .insert = .ok (.insert (a :: as)) := by
        simp [request, htable, hwritten]
      rw [hrequest] at houtcome
      refine iff_of_false (fun h => ?_) (by simp)
      obtain ⟨kind, hkind⟩ := houtcome _ h
      cases hkind

variable {d}

/-- What can be inserted has something for an update. -/
theorem exists_request_update {r : Request} (h : d.request settings.mode .insert = .ok r) :
    ∃ r', d.request settings.mode .update = .ok r' := by
  cases hupdates : (d.payload.getD []).updates with
  | nil =>
    have hinsertions := Payload.insertions_eq_nil hupdates
    unfold request at h
    simp only [hinsertions] at h
    split_ifs at h
  | cons a as =>
    have htable : ¬ Text.isBlankText d.table := fun htable => by simp [request, htable] at h
    exact ⟨.update (a :: as), by simp [request, htable, hupdates]⟩

variable {s} {st : Statement}

/-- The text of an insert has its columns and its values one after the other. -/
theorem text_insert (h : (settings.compileAs d .insert).outcome s = .ok st) :
    ∃ rest, st.text = "INSERT INTO " ++ d.qualifiedTable ++ " (" ++
      String.intercalate "," ((d.payload.getD []).insertions.map (·.column)) ++ ") VALUES (" ++
      String.intercalate "," (Fragment.sqlEach settings.dialect settings.mode 0
        ((d.payload.getD []).insertions.map (·.value))) ++ ")" ++ rest := by
  rw [Settings.outcome_compileAs] at h
  obtain ⟨r, hr, rfl⟩ := Settings.compileUnder_eq_ok h
  obtain rfl : r = .insert _ := request_eq_ok hr
  rw [text_planUnder, Request.draftUnder, Draft.text, Fragment.sql, Fragment.sql_append,
    Fragment.sql_join, Fragment.sql, Fragment.sql, String.append_empty]
  simp only [String.append_assoc]
  exact ⟨_, rfl⟩

/-- The text of an update has its assignments one after the other. -/
theorem text_update (h : (settings.compileAs d .update).outcome s = .ok st) :
    ∃ rest, st.text = "UPDATE " ++ d.qualifiedTable ++ " SET " ++
      String.intercalate "," (Fragment.sqlEach settings.dialect settings.mode 0
        ((d.payload.getD []).updates.map Assignment.fragment)) ++ rest := by
  rw [Settings.outcome_compileAs] at h
  obtain ⟨r, hr, rfl⟩ := Settings.compileUnder_eq_ok h
  obtain rfl : r = .update _ := request_eq_ok hr
  rw [text_planUnder, Request.draftUnder, Draft.text, Fragment.sql, Fragment.sql_append,
    Fragment.sql_join]
  simp only [String.append_assoc]
  exact ⟨_, rfl⟩

/-- An insert and an update of one payload go through its entries alike. The columns and values of
the insert are those of the entries with a value that are not kept for updates, and the assignments
of the update those of all entries with a value; each has the quoted column of its entry and binds
what the entry binds, so that the parameters of both are those of the entries, in order. It is these
that stand in the statements. An insert is refused as empty where nothing is written, and what can
be inserted can be updated with, if the filter is not refused. -/
theorem gives_payload (settings : Settings) (d : Descriptor) (s : Session) (n : Nat) :
    let p := d.payload.getD []
    let columns := p.insertions.map (·.column)
    let values := p.insertions.map (·.value)
    let assignments := p.updates.map Assignment.fragment
    let texts := Fragment.sqlEach settings.dialect settings.mode
    columns.length = (texts n values).length ∧
    List.Forall₂
      (fun e written =>
        e.Gives Entry.insertion? settings.dialect settings.mode written.1 written.2)
      (p.filter fun e => e.value.isSome ∧ e.change ≠ .rawUpdate) (columns.zip (texts n values)) ∧
    List.Forall₂
      (fun e assignment => ∃ sql, assignment = quoteIdentifier e.column ++ " = " ++ sql ∧
        e.Gives Entry.update? settings.dialect settings.mode (quoteIdentifier e.column) sql)
      (p.filter (·.value.isSome)) (texts n assignments) ∧
    values.flatMap (·.params .parameterized) = p.flatMap Entry.bound ∧
    assignments.flatMap (·.params .parameterized) = p.flatMap Entry.bound ∧
    (∀ st, (settings.compileAs d .insert).outcome s = .ok st →
      ∃ rest, st.text = "INSERT INTO " ++ d.qualifiedTable ++ " (" ++
        String.intercalate "," columns ++ ") VALUES (" ++
        String.intercalate "," (texts 0 values) ++ ")" ++ rest) ∧
    (∀ st, (settings.compileAs d .update).outcome s = .ok st →
      ∃ rest, st.text = "UPDATE " ++ d.qualifiedTable ++ " SET " ++
        String.intercalate "," (texts 0 assignments) ++ rest) ∧
    ((settings.compileAs d .insert).outcome s = .error (.emptyPayload .insert d.table) ↔
      ¬ Text.isBlankText d.table ∧ columns = []) ∧
    (columns ≠ [] → assignments ≠ []) ∧
    ((∃ st, (settings.compileAs d .insert).outcome s = .ok st) →
      ∀ e, (settings.compileAs d .update).outcome s = .error e →
        ∃ kind, e = .unknownCondition kind) := by
  intro p columns values assignments texts
  have hlength : columns.length = (texts n values).length := by
    rw [Fragment.length_sqlEach, List.length_map, List.length_map]
  have hinserted : values.flatMap (·.params .parameterized) = p.flatMap Entry.bound := by
    rw [List.flatMap_map]
    exact p.values_insertions
  have hupdated : assignments.flatMap (·.params .parameterized) = p.flatMap Entry.bound := by
    rw [List.flatMap_map]
    exact p.values_updates
  have hempty := d.emptyPayload_insert_iff settings s
  have hcolumns : columns = [] ↔ p.insertions = [] := List.map_eq_nil_iff
  have hboth : columns ≠ [] → assignments ≠ [] := fun hne hnone =>
    hne (hcolumns.mpr (Payload.insertions_eq_nil (List.map_eq_nil_iff.mp hnone)))
  refine ⟨hlength, p.gives_insertions _ _ n, p.gives_updates _ _ n, hinserted, hupdated,
    fun st => text_insert settings, fun st => text_update settings, ?_, hboth, ?_⟩
  · rw [hempty, hcolumns]
  · rintro ⟨st, hst⟩
    rw [Settings.outcome_compileAs] at hst
    obtain ⟨r, hr, -⟩ := Settings.compileUnder_eq_ok hst
    obtain ⟨r', hr'⟩ := exists_request_update settings hr
    have houtcome := d.outcome_of_request settings s .update
    rwa [hr'] at houtcome

end Descriptor

end FilterSql
