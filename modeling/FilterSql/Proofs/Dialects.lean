import FilterSql.Proofs.Inline
import FilterSql.Proofs.Placeholder.Template
import FilterSql.Proofs.WriteScan

/-!
# One statement in two dialects

The text of a statement is a list of marks, which is the same in both dialects: text, numbered
placeholders, and the truth values that a toggle writes. Each dialect writes the marks in its own
way and puts its own page after them. So the statement of one dialect is that of the other with
other placeholders, truth values and pages, and without the output parameters on PostgreSQL
(`Statement.Counterpart`). A fragment is such a list (`Fragment.write_marks`), and so is a template
with a filter in it, whose clause has the same marks in every place (`Template.write_marks`).
Whether a raw query writes is read off the text, by a scan that does not see what the dialects write
differently (`Descriptor.kind_planUnder_eq`).
-/

namespace FilterSql

/-! ## Marks -/

/-- A piece of the text of a statement. -/
inductive Mark where
  | text (s : String)
  | placeholder (number : Nat)
  /-- A truth value that is part of the statement. -/
  | truth (b : Bool)

namespace Mark

/-- A mark as a dialect writes it. -/
def sql (d : Dialect) : Mark → String
  | text s => s
  | placeholder n => d.placeholder n
  | truth b => d.truth b

/-- Marks as a dialect writes them, one after the other. -/
def write (d : Dialect) (marks : List Mark) : String :=
  String.join (marks.map (sql d))

/-- The numbers of the placeholders. -/
def numbers (marks : List Mark) : List Nat :=
  marks.filterMap fun
    | placeholder n => some n
    | _ => none

def truths (marks : List Mark) : List Bool :=
  marks.filterMap fun
    | truth b => some b
    | _ => none

@[simp]
theorem write_nil (d : Dialect) : write d [] = "" := rfl

@[simp]
theorem write_cons (d : Dialect) (m : Mark) (ms : List Mark) :
    write d (m :: ms) = m.sql d ++ write d ms := by
  simp [write]

@[simp]
theorem write_append (d : Dialect) (ms ns : List Mark) :
    write d (ms ++ ns) = write d ms ++ write d ns := by
  simp [write]

@[simp]
theorem numbers_append (ms ns : List Mark) : numbers (ms ++ ns) = numbers ms ++ numbers ns :=
  List.filterMap_append

@[simp]
theorem truths_append (ms ns : List Mark) : truths (ms ++ ns) = truths ms ++ truths ns :=
  List.filterMap_append

@[simp]
theorem numbers_text (s : String) (ms : List Mark) : numbers (text s :: ms) = numbers ms := rfl

@[simp]
theorem truths_text (s : String) (ms : List Mark) : truths (text s :: ms) = truths ms := rfl

/-- Without truth values the dialects write marks with nothing but other leads. -/
theorem map_oneLead_write {marks : List Mark} (h : truths marks = []) (d d' : Dialect) :
    (write d marks).toList.map WriteScan.oneLead =
      (write d' marks).toList.map WriteScan.oneLead := by
  have hlead : ∀ d : Dialect, WriteScan.oneLead d.placeholderLead = ':' := by
    intro d
    cases d <;> decide
  induction marks with
  | nil => rfl
  | cons m ms ih =>
    cases m with
    | text s => simp [sql, ih h]
    | placeholder n => simp [sql, Dialect.toList_placeholder, hlead, ih h]
    | truth b => cases h

end Mark

namespace Fragment

/-- The marks of a fragment after `n` parameters. -/
def marks : Nat → Fragment → List Mark
  | _, [] => []
  | n, .text s :: f => .text s :: marks n f
  | n, .truth b :: f => .truth b :: marks n f
  | n, .value _ :: f => .placeholder (n + 1) :: marks (n + 1) f

/-- The truth values of a fragment. -/
def truths (f : Fragment) : List Bool :=
  f.filterMap fun
    | .truth b => some b
    | _ => none

theorem write_marks (d : Dialect) (n : Nat) (f : Fragment) :
    Mark.write d (f.marks n) = f.sql d .parameterized n := by
  induction f generalizing n with
  | nil => rfl
  | cons p f ih => cases p <;> simp [marks, sql, Mark.sql, ih]

theorem numbers_marks (n : Nat) (f : Fragment) :
    Mark.numbers (f.marks n) = List.range' (n + 1) f.values.length := by
  induction f generalizing n with
  | nil => rfl
  | cons p f ih =>
    cases p with
    | text s => exact ih n
    | truth b => exact ih n
    | value v => exact congrArg (_ :: ·) (ih (n + 1))

theorem truths_marks (n : Nat) (f : Fragment) : Mark.truths (f.marks n) = f.truths := by
  induction f generalizing n with
  | nil => rfl
  | cons p f ih =>
    cases p with
    | text s => exact ih n
    | truth b => exact congrArg (b :: ·) (ih n)
    | value v => exact ih (n + 1)

/-! ## Truth values -/

@[simp]
theorem truths_nil : truths [] = [] := rfl

@[simp]
theorem truths_text (s : String) (f : Fragment) : truths (.text s :: f) = truths f := rfl

@[simp]
theorem truths_value (v : Value) (f : Fragment) : truths (.value v :: f) = truths f := rfl

@[simp]
theorem truths_truth (b : Bool) (f : Fragment) : truths (.truth b :: f) = b :: truths f := rfl

@[simp]
theorem truths_append (f g : Fragment) : truths (f ++ g) = truths f ++ truths g :=
  List.filterMap_append

@[simp]
theorem truths_bind (v : Value) : truths (bind v) = [] := rfl

@[simp]
theorem truths_bindList (vs : List Value) : truths (bindList vs) = [] := by
  cases vs with
  | nil => rfl
  | cons v vs =>
    rw [bindList, truths_value]
    induction vs with
    | nil => rfl
    | cons w vs ih => exact ih

@[simp]
theorem truths_join (separator : String) (fs : List Fragment) :
    truths (join separator fs) = fs.flatMap truths := by
  induction fs with
  | nil => rfl
  | cons f fs ih =>
    cases fs with
    | nil => simp [join]
    | cons g gs => rw [join_cons_cons, truths_append, truths_text, ih]; rfl

end Fragment

/-- A test has no truth values. -/
theorem Test.truths_fragment (t : Test) : t.fragment.truths = [] := by
  cases t with
  | permit owner orNull column values =>
    cases owner <;> cases orNull <;> simp [fragment, ways, membership, Fragment.join]
  | _ => simp [fragment, membership]

/-- A filter has no truth values. -/
theorem Condition.truths_filterFragment (column : String → String) (cs : List Condition) :
    (filterFragment column cs).truths = [] := by
  have htoken : ∀ t : Token, t.fragment.truths = [] := by
    intro t
    cases t with
    | test t => exact t.truths_fragment
    | _ => rfl
  have htokens : ∀ ts : List Token, Fragment.truths (ts.flatMap Token.fragment) = [] := by
    intro ts
    induction ts with
    | nil => rfl
    | cons t ts ih => rw [List.flatMap_cons, Fragment.truths_append, htoken, ih]; rfl
  unfold filterFragment whereFragment
  split
  · rfl
  · exact htokens _

theorem Condition.truths_clauseFragment? {column : String → String} {cs : List Condition}
    {f : Fragment} (h : clauseFragment? column cs = some f) : f.truths = [] := by
  have htruths := truths_filterFragment column cs
  obtain ⟨g, rfl, hfilter⟩ := exists_of_clauseFragment? h
  rw [hfilter] at htruths
  exact htruths

/-- The truth values that an operation writes for an entry: those of a toggle. -/
def Entry.truths (exec : Exec) (e : Entry) : List Bool :=
  match e.value, e.change, exec with
  | some _, .toggle, .insert => [false]
  | some _, .toggle, .update => [true, false, true]
  | _, _, _ => []

namespace Entry

theorem truths_insertion? (e : Entry) :
    e.insertion?.toList.flatMap (·.value.truths) = e.truths .insert := by
  obtain ⟨column, change, value⟩ := e
  cases value with
  | none => cases change <;> rfl
  | some v => cases change <;> simp [insertion?, inserted?, truths]

theorem truths_update? (e : Entry) :
    e.update?.toList.flatMap (·.fragment.truths) = e.truths .update := by
  obtain ⟨column, change, value⟩ := e
  cases value with
  | none => cases change <;> rfl
  | some v => cases change <;> simp [update?, updated, truths, Assignment.fragment]

end Entry

namespace Payload

theorem truths_insertions (p : Payload) :
    p.insertions.flatMap (·.value.truths) = p.flatMap (Entry.truths .insert) :=
  flatMap_filterMap fun e _ => e.truths_insertion?

theorem truths_updates (p : Payload) :
    p.updates.flatMap (·.fragment.truths) = p.flatMap (Entry.truths .update) :=
  flatMap_filterMap fun e _ => e.truths_update?

end Payload

/-! ## The marks of a draft -/

/-- The marks of a template with a clause in its frame, after `n` parameters. -/
def Template.marks (template : List Char) (n : Nat) (clause : Fragment) : List Mark :=
  .text (String.ofList (frame template).1) ::
    (frame template).2.flatMap fun t => clause.marks n ++ [.text (String.ofList t)]

namespace Template

theorem write_marks (d : Dialect) (template : List Char) (n : Nat) (clause : Fragment) :
    Mark.write d (marks template n clause) =
      String.ofList ((frame template).1 ++
        (frame template).2.flatMap ((clause.sql d .parameterized n).toList ++ ·)) := by
  have hrest : ∀ rest : List (List Char),
      Mark.write d (rest.flatMap fun t => clause.marks n ++ [.text (String.ofList t)]) =
        String.ofList (rest.flatMap ((clause.sql d .parameterized n).toList ++ ·)) := by
    intro rest
    induction rest with
    | nil => rfl
    | cons t ts ih => simp [ih, Mark.sql, Fragment.write_marks, String.ofList_append]
  rw [marks, Mark.write_cons, hrest, String.ofList_append]
  rfl

theorem numbers_marks (template : List Char) (n : Nat) (clause : Fragment) :
    Mark.numbers (marks template n clause) =
      (List.replicate (copies template) (List.range' (n + 1) clause.values.length)).flatten := by
  rw [marks, Mark.numbers_text, ← length_frame]
  induction (frame template).2 with
  | nil => rfl
  | cons t ts ih =>
    rw [List.flatMap_cons, Mark.numbers_append, Mark.numbers_append, ih, Fragment.numbers_marks,
      List.length_cons, List.replicate_succ, List.flatten_cons]
    exact congrArg (· ++ _) (List.append_nil _)

theorem truths_marks (template : List Char) (n : Nat) {clause : Fragment}
    (h : clause.truths = []) : Mark.truths (marks template n clause) = [] := by
  rw [marks, Mark.truths_text]
  induction (frame template).2 with
  | nil => rfl
  | cons t ts ih =>
    rw [List.flatMap_cons, Mark.truths_append, Mark.truths_append, ih, Fragment.truths_marks, h]
    rfl

end Template

namespace Descriptor

/-- The truth values that an operation writes. -/
def truths (d : Descriptor) (exec : Exec) : List Bool :=
  match exec with
  | .insert | .update => (d.payload.getD []).flatMap (Entry.truths exec)
  | _ => []

/-- The numbers of the placeholders of `n` values in the text of an operation. The filter of a raw
query is counted on from its own parameters, and is in every place of its template. -/
def numbers (d : Descriptor) (exec : Exec) (n : Nat) : List Nat :=
  match exec with
  | .query =>
    (List.replicate (Template.copies (d.query.getD "").toList)
      (List.range' (d.params.length + 1) (n - d.params.length))).flatten
  | _ => List.range' 1 n

end Descriptor

namespace Request

variable {d : Descriptor} {mode : BindMode} {exec : Exec} {r : Request}

/-- The truth values of a fragment are those that the operation writes. -/
theorem truths_draftUnder (names : Names) (h : d.request mode exec = .ok r) {f : Fragment}
    (hf : r.draftUnder names d = .direct f) : f.truths = d.truths exec := by
  have hfilter := Condition.truths_filterFragment names.column d.conditions
  have hr := Descriptor.request_eq_ok h
  cases exec with
  | query =>
    obtain ⟨template, -, rfl⟩ := hr
    cases hf
  | insert =>
    obtain rfl : r = _ := hr
    obtain rfl := Draft.direct.inj hf
    simp [Descriptor.truths, List.flatMap_map, Payload.truths_insertions]
  | update =>
    obtain rfl : r = _ := hr
    obtain rfl := Draft.direct.inj hf
    simp [Descriptor.truths, List.flatMap_map, Payload.truths_updates, hfilter]
  | scalar =>
    obtain ⟨spec, -, ⟨key, -, rfl⟩ | ⟨function, key, -, rfl⟩⟩ := Descriptor.scalarRequest_eq_ok hr
    · obtain rfl := Draft.direct.inj hf
      simp [Descriptor.truths, hfilter]
    · obtain rfl := Draft.direct.inj hf
      simp [Descriptor.truths, hfilter]
  | _ =>
    obtain rfl : r = _ := hr
    obtain rfl := Draft.direct.inj hf
    simp [Descriptor.truths, hfilter]

/-- The draft of an operation has the same marks in every dialect. -/
theorem exists_marks (names : Names) (h : d.request mode exec = .ok r) :
    ∃ marks : List Mark,
      (∀ dialect, (r.draftUnder names d).text dialect .parameterized =
        Mark.write dialect marks) ∧
      Mark.numbers marks =
        d.numbers exec ((r.draftUnder names d).inputs .parameterized).length ∧
      Mark.truths marks = d.truths exec := by
  -- Only a raw query has its filter elsewhere than at the end of one fragment.
  by_cases he : exec = .query
  · subst he
    obtain ⟨template, htemplate, rfl⟩ := Descriptor.request_eq_ok h
    have hinputs : ((Request.template template).draftUnder names d).inputs .parameterized =
        d.params.map Value.resolve ++ Condition.boundAll d.conditions := by
      simp [draftUnder, Draft.inputs]
    have hnumber : (d.params.map Value.resolve ++ Condition.boundAll d.conditions).length -
        d.params.length = (Condition.boundAll d.conditions).length := by
      simp
    rw [hinputs, Descriptor.numbers, hnumber, htemplate]
    simp only [draftUnder, Draft.text_template]
    cases hclause : Condition.clauseFragment? names.column d.conditions with
    | none =>
      -- A filter that is empty has no places of values.
      refine ⟨[.text (Template.fill template "")], fun dialect => ?_, ?_, rfl⟩
      · simp [Mark.sql]
      · rw [Condition.boundAll_of_clauseFragment?_eq_none hclause]
        simp [Mark.numbers]
    | some clause =>
      refine ⟨Template.marks template.toList d.params.length clause, fun dialect => ?_, ?_, ?_⟩
      · rw [Template.write_marks]
      · rw [Template.numbers_marks, Condition.values_clauseFragment? hclause]
        rfl
      · exact Template.truths_marks _ _ (Condition.truths_clauseFragment? hclause)
  · obtain ⟨f, hf⟩ := exists_direct h he names
    refine ⟨f.marks 0, fun dialect => ?_, ?_, ?_⟩
    · rw [hf, Draft.text, Fragment.write_marks]
    · have hnumbers : d.numbers exec f.values.length = List.range' 1 f.values.length := by
        cases exec with
        | query => exact absurd rfl he
        | _ => rfl
      rw [hf, Fragment.numbers_marks, Draft.inputs, Fragment.params_parameterized, hnumbers]
    · rw [Fragment.truths_marks, truths_draftUnder names h hf]

end Request

/-! ## Statements -/

/-- `q` is on PostgreSQL what `p` is on Oracle, for an operation of a descriptor. Both have the same
kind, returned columns and values. Their texts have the same marks, with placeholders for the values
and truth values for the toggles, then the page of the dialect, and then the returned columns, which
on Oracle go into the output parameters after the values. -/
structure Statement.Counterpart (d : Descriptor) (exec : Exec) (p q : Statement) : Prop where
  kind : p.kind = q.kind
  returning : p.returning = q.returning
  values : p.values = q.values
  text : ∃ (marks : List Mark) (columns : List String),
    Mark.numbers marks = d.numbers exec p.values.length ∧
    Mark.truths marks = d.truths exec ∧
    columns.length = p.returning.length ∧
    let take := if exec.isPaged then d.take.filter (· > 0) else none
    let skip := if exec.isPaged then d.skip.filter (· > 0) else none
    let returning :=
      if columns = [] then "" else " RETURNING " ++ String.intercalate "," columns
    let outputs := (List.range' (p.values.length + 1) columns.length).map Dialect.oracle.placeholder
    let into := if columns = [] then "" else " INTO " ++ String.intercalate "," outputs
    p.text = Mark.write .oracle marks ++ Dialect.oracle.page take skip ++ returning ++ into ∧
    q.text = Mark.write .postgres marks ++ Dialect.postgres.page take skip ++ returning

/-- Outside raw queries the text does not say whether a statement writes. -/
theorem Plan.kind_eq_of_ne_query {exec : Exec} (he : exec ≠ .query) (text text' : String) :
    kind exec text = kind exec text' := by
  cases exec with
  | query => exact absurd rfl he
  | _ => rfl

namespace Descriptor

variable {d : Descriptor} {exec : Exec} {r : Request}

/-- The text of a statement is made of marks, which are the same in every dialect, and of the page
and the returned columns after them. -/
theorem exists_marks_planUnder (names : Names) (h : d.request .parameterized exec = .ok r) :
    ∃ marks : List Mark,
      Mark.numbers marks =
        d.numbers exec ((r.draftUnder names d).inputs .parameterized).length ∧
      Mark.truths marks = d.truths exec ∧
      ∀ dialect, ((d.planUnder names exec r).statement dialect .parameterized).text =
        Mark.write dialect marks ++
          dialect.page (if exec.isPaged then d.take.filter (· > 0) else none)
            (if exec.isPaged then d.skip.filter (· > 0) else none) ++
          dialect.returningAfter ((r.draftUnder names d).inputs .parameterized).length
            ((d.returned exec).map names.column) := by
  obtain ⟨marks, hmarks, hnumbers, htruths⟩ := Request.exists_marks names h
  let order := if exec.isPaged then names.order (d.sort.getD []) else ""
  refine ⟨marks ++ [.text order], ?_, ?_, fun dialect => ?_⟩
  · rw [Mark.numbers_append, hnumbers]
    exact List.append_nil _
  · rw [Mark.truths_append, htruths]
    exact List.append_nil _
  · rw [text_planUnder, Mark.write_append, ← hmarks, Mark.write_cons, Mark.write_nil,
      String.append_empty]
    rfl

/-- A statement is of the same kind in every dialect. -/
theorem kind_planUnder_eq (names : Names) (h : d.request .parameterized exec = .ok r)
    (dialect dialect' : Dialect) :
    ((d.planUnder names exec r).statement dialect .parameterized).kind =
      ((d.planUnder names exec r).statement dialect' .parameterized).kind := by
  have hkind : ∀ dialect, ((d.planUnder names exec r).statement dialect .parameterized).kind =
      Plan.kind exec ((d.planUnder names exec r).statement dialect .parameterized).text :=
    fun dialect => rfl
  rw [hkind, hkind]
  by_cases he : exec = .query
  · -- A raw query writes no truth values and gives back no columns: its text ends in its page.
    obtain ⟨marks, -, htruths, htext⟩ := exists_marks_planUnder names h
    have hnone : Mark.truths marks = [] := by rw [htruths, he]; rfl
    have hcolumns : (d.returned exec).map names.column = [] := by simp [he, returned]
    rw [htext, htext, hcolumns, Dialect.returningAfter, Dialect.returningAfter,
      String.append_empty, String.append_empty, he, Plan.kind, Plan.kind]
    rw [WriteScan.isWrite_congr (Mark.map_oneLead_write hnone dialect dialect') dialect dialect']
  · exact Plan.kind_eq_of_ne_query he _ _

/-- The statements of a plan in the two dialects are counterparts. -/
theorem counterpart_planUnder (names : Names) (h : d.request .parameterized exec = .ok r) :
    Statement.Counterpart d exec
      ((d.planUnder names exec r).statement .oracle .parameterized)
      ((d.planUnder names exec r).statement .postgres .parameterized) := by
  obtain ⟨marks, hnumbers, htruths, htext⟩ := exists_marks_planUnder names h
  have hvalues : ∀ dialect, ((d.planUnder names exec r).statement dialect .parameterized).values =
      (r.draftUnder names d).inputs .parameterized :=
    fun dialect => Plan.values_statement dialect _ _
  have hreturning : ∀ dialect,
      ((d.planUnder names exec r).statement dialect .parameterized).returning =
        d.returned exec := by
    intro dialect
    simp [Plan.statement, planUnder, Names.listed, Function.comp_def]
  refine ⟨kind_planUnder_eq names h _ _, ?_, ?_, marks, (d.returned exec).map names.column, ?_,
    htruths, ?_, ?_, ?_⟩
  · rw [hreturning, hreturning]
  · rw [hvalues, hvalues]
  · rw [hvalues, hnumbers]
  · rw [hreturning, List.length_map]
  · rw [htext, hvalues]
    cases (d.returned exec).map names.column with
    | nil => simp [Dialect.returningAfter]
    | cons c cs =>
      simp [Dialect.returningAfter, Dialect.returning, Dialect.bindsReturned, String.append_assoc]
  · rw [htext]
    cases (d.returned exec).map names.column with
    | nil => simp [Dialect.returningAfter]
    | cons c cs => simp [Dialect.returningAfter, Dialect.returning]

end Descriptor

namespace Settings

/-- With parameters the two dialects refuse the same descriptors, with the same error, and otherwise
give statements that are counterparts. -/
theorem counterpart_compileAs (settings : Settings) (d : Descriptor) (exec : Exec) (s : Session) :
    let compiled (dialect : Dialect) :=
      (compileAs { settings with dialect, mode := .parameterized } d exec).outcome s
    match compiled .oracle, compiled .postgres with
    | .error e, .error e' => e = e'
    | .ok p, .ok q => p.Counterpart d exec q
    | _, _ => False := by
  simp only [outcome_compileAs, compileUnder]
  cases hr : d.request .parameterized exec with
  | error e => rfl
  | ok r =>
    have hplan := Descriptor.counterpart_planUnder (s.names d.languageCode) hr
    simp only [Except.bind, Condition.checked_map]
    unfold Condition.checked
    cases r.unknown? d with
    | none => exact hplan
    | some kind =>
      cases settings.strict with
      | true => rfl
      | false => exact hplan

/-- The tasks of an owner: a page of them, or what changes whether they are done. -/
private def sampleTasks : Descriptor where
  table := "task"
  conditions := [.compare "owner" .eq (.int 7)]
  take := some 5
  skip := some 10
  payload := some [⟨"done", .toggle, some (.bool true)⟩]
  returning := some ["id"]

example :
    let text (dialect : Dialect) (exec : Exec) :=
      ((compileAs { dialect } sampleTasks exec).outcome {}).toOption.map (·.text)
    text .oracle .find =
        some "SELECT * FROM task WHERE \"owner\"=:1 OFFSET 10 ROWS FETCH NEXT 5 ROWS ONLY" ∧
      text .postgres .find = some "SELECT * FROM task WHERE \"owner\"=$1 LIMIT 5 OFFSET 10" ∧
      text .oracle .update =
        some ("UPDATE task SET \"done\" = CASE \"done\" WHEN 1 THEN 0 ELSE 1 END " ++
          "WHERE \"owner\"=:1 RETURNING \"id\" INTO :2") ∧
      text .postgres .update =
        some ("UPDATE task SET \"done\" = CASE \"done\" WHEN TRUE THEN FALSE ELSE TRUE END " ++
          "WHERE \"owner\"=$1 RETURNING \"id\"") := by
  decide +kernel

end Settings

end FilterSql
