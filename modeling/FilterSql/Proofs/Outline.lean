import FilterSql.Proofs.Plan
import FilterSql.Proofs.Rewriting

/-!
# Text does not depend on values

A descriptor without its values (`Descriptor.withoutValues`) has every value that would be bound
replaced by one and the same. Left as they are: whether a compared value is null, whether an access
list has an owner, how many members a list has, which entries of a payload have a value, and the
entries that are SQL of the caller.

A fragment is followed from one descriptor to the other by its outline, in which the values are left
out. With parameters the outline settles the text (`sql_outline`), and a descriptor has the outline
of the one without values: for a filter because its tests have it (`outline_filterFragment`), and
then for requests and drafts (`outline_request`, `outline_draftUnder`). So what can be seen of a
statement is the same for two descriptors that are the same without their values.
-/

namespace FilterSql

/-! ## Outlines of fragments -/

/-- The place of a value without the value. -/
def Piece.outline : Piece → Piece
  | value _ => value .null
  | p => p

namespace Fragment

/-- A fragment without its values. -/
def outline (f : Fragment) : Fragment :=
  f.map Piece.outline

@[simp]
theorem outline_nil : outline [] = [] := rfl

@[simp]
theorem outline_text (s : String) (f : Fragment) : outline (.text s :: f) = .text s :: outline f :=
  rfl

@[simp]
theorem outline_truth (b : Bool) (f : Fragment) :
    outline (.truth b :: f) = .truth b :: outline f := rfl

@[simp]
theorem outline_append (f g : Fragment) : (f ++ g).outline = f.outline ++ g.outline :=
  List.map_append

@[simp]
theorem outline_bind (v : Value) : (bind v).outline = [.value .null] := rfl

@[simp]
theorem outline_outline (f : Fragment) : f.outline.outline = f.outline := by
  rw [outline, outline, List.map_map]
  exact List.map_congr_left fun p _ => by cases p <;> rfl

/-- The outline of a list of values is settled by their number. -/
@[simp]
theorem outline_bindList (vs : List Value) :
    (bindList (List.replicate vs.length .null)).outline = (bindList vs).outline := by
  cases vs with
  | nil => rfl
  | cons v vs =>
    simp only [bindList, outline, List.length_cons, List.replicate_succ, List.map_cons,
      Piece.outline, Value.resolve]
    congr 1
    -- After the first value each has a comma before it.
    induction vs with
    | nil => rfl
    | cons w vs ih => simp [ih, List.replicate_succ, Piece.outline]

@[simp]
theorem outline_join (separator : String) (fs : List Fragment) :
    (join separator fs).outline = join separator (fs.map outline) :=
  map_join (fun _ => rfl) separator fs

/-- With parameters the text of a fragment is that of its outline. -/
theorem sql_outline (d : Dialect) (n : Nat) (f : Fragment) :
    f.outline.sql d .parameterized n = f.sql d .parameterized n := by
  induction f generalizing n with
  | nil => rfl
  | cons p f ih =>
    have hcons : outline (p :: f) = p.outline :: outline f := rfl
    cases p <;> simp [hcons, Piece.outline, sql, ih]

/-- A fragment has as many values as its outline. -/
theorem length_values_outline (f : Fragment) : f.outline.values.length = f.values.length := by
  induction f with
  | nil => rfl
  | cons p f ih =>
    have hcons : outline (p :: f) = p.outline :: outline f := rfl
    cases p <;> simp [hcons, Piece.outline, ih]

end Fragment

/-! ## Conditions -/

namespace Condition

mutual

/-- A condition without its values. Whether a value is null stays for a comparison and for an
owner, which are told apart by it. -/
def withoutValues : Condition → Condition
  | compare name comparer value =>
    .compare name comparer (if value.resolve.isNull then .null else .bool true)
  | among name values => .among name (List.replicate values.length .null)
  | notAmong name values => .notAmong name (List.replicate values.length .null)
  | between name _ _ => .between name .null .null
  | search name _ anchor => .search name "" anchor
  | blank name => .blank name
  | filled name => .filled name
  | datePart part name comparer _ => .datePart part name comparer .null
  | permit name values required owner =>
    .permit name (List.replicate values.length .null) required
      ((owner.filter (!·.isNull)).map fun _ => .bool true)
  | raw sql => .raw sql
  | any conditions => .any (withoutValuesAll conditions)
  | unknown kind => .unknown kind

/-- Conditions without their values. -/
def withoutValuesAll : List Condition → List Condition
  | [] => []
  | c :: cs => withoutValues c :: withoutValuesAll cs

end

variable (column : String → String)

/-- A test has the outline of the one without values. -/
theorem outline_test? (c : Condition) :
    (c.withoutValues.test? column).map (·.fragment.outline) =
      (c.test? column).map (·.fragment.outline) := by
  cases c with
  | compare name comparer value =>
    simp only [withoutValues, test?, comparisonTest]
    cases value.resolve.isNull with
    | true => rfl
    | false => rfl
  | among name values | notAmong name values =>
    simp [withoutValues, test?, Test.fragment, Test.membership]
  | permit name values required owner =>
    have howner : Option.filter (!·.isNull) (some (Value.bool true)) = some (.bool true) := rfl
    simp only [withoutValues, test?]
    cases owner.filter (!·.isNull) <;> cases required <;>
      simp [Test.fragment, Test.ways, Test.membership, howner]
  | between name low high => rfl
  | search name term anchor => rfl
  | datePart part name comparer value => rfl
  | blank _ | filled _ | raw _ => rfl
  | any _ | unknown _ => rfl

theorem withoutValuesAll_eq_map (cs : List Condition) :
    withoutValuesAll cs = cs.map withoutValues := by
  induction cs with
  | nil => rfl
  | cons c cs ih => rw [withoutValuesAll, ih, List.map_cons]

/-- Leaving out values rewrites the tests of a filter. -/
def withoutValuesRewriting : Rewriting where
  rewrite := withoutValues
  rewrite_any cs := by rw [withoutValues, withoutValuesAll_eq_map]
  rewrite_unknown _ := rfl
  isTest_rewrite {c} h := by
    cases c with
    | any _ | unknown _ => exact absurd h Bool.false_ne_true
    | _ => rfl

/-- A filter has the outline of the one without values. -/
theorem outline_filterFragment (cs : List Condition) :
    (filterFragment column (withoutValuesAll cs)).outline =
      (filterFragment column cs).outline := by
  rw [withoutValuesAll_eq_map]
  exact withoutValuesRewriting.map_filterFragment column (fun _ => rfl) (fun _ => rfl)
    fun t _ => outline_test? column t

/-- Conditions without their values have the same first unknown kind. -/
theorem firstUnknown?_withoutValuesAll (cs : List Condition) :
    firstUnknown? (withoutValuesAll cs) = firstUnknown? cs := by
  rw [withoutValuesAll_eq_map]
  exact withoutValuesRewriting.unknown?_rewrite.2 cs

end Condition

/-! ## Payloads -/

/-- An assignment without its values. -/
def Assignment.outline (a : Assignment) : Assignment :=
  ⟨a.column, a.value.outline⟩

/-- An entry without its value, unless that is SQL of the caller. -/
def Entry.withoutValue (e : Entry) : Entry :=
  match e.change with
  | .raw | .rawUpdate => e
  | _ => { e with value := e.value.map fun _ => .null }

/-- A payload without its values, except for SQL of the caller. -/
def Payload.withoutValues (p : Payload) : Payload :=
  p.map Entry.withoutValue

theorem Entry.outline_insertion? (e : Entry) :
    e.withoutValue.insertion?.map Assignment.outline = e.insertion?.map Assignment.outline := by
  obtain ⟨column, change, value⟩ := e
  cases value <;> cases change <;> rfl

theorem Entry.outline_update? (e : Entry) :
    e.withoutValue.update?.map Assignment.outline = e.update?.map Assignment.outline := by
  obtain ⟨column, change, value⟩ := e
  cases value <;> cases change <;> rfl

/-- An insert writes what it writes without its values, up to these. -/
theorem Payload.outline_insertions (p : Payload) :
    p.withoutValues.insertions.map Assignment.outline = p.insertions.map Assignment.outline := by
  rw [withoutValues, insertions, insertions, List.filterMap_map, List.map_filterMap,
    List.map_filterMap]
  congr 1
  funext e
  exact e.outline_insertion?

/-- An update writes what it writes without its values, up to these. -/
theorem Payload.outline_updates (p : Payload) :
    p.withoutValues.updates.map Assignment.outline = p.updates.map Assignment.outline := by
  rw [withoutValues, updates, updates, List.filterMap_map, List.map_filterMap,
    List.map_filterMap]
  congr 1
  funext e
  exact e.outline_update?

/-! ## Requests and drafts -/

/-- A request without its values. -/
def Request.outline : Request → Request
  | insert assignments => insert (assignments.map Assignment.outline)
  | update assignments => update (assignments.map Assignment.outline)
  | r => r

/-- A draft without its values. -/
def Draft.outline : Draft → Draft
  | direct f => direct f.outline
  | template text params filter =>
    template text (List.replicate params.length .null) filter.outline

namespace Draft

theorem text_outline (dialect : Dialect) (draft : Draft) :
    draft.outline.text dialect .parameterized = draft.text dialect .parameterized := by
  cases draft with
  | direct f => exact Fragment.sql_outline ..
  | template text params filter => simp [outline, Draft.text, Fragment.sql_outline]

theorem length_inputs_outline (draft : Draft) :
    (draft.outline.inputs .parameterized).length = (draft.inputs .parameterized).length := by
  cases draft with
  | direct f => exact Fragment.length_values_outline f
  | template text params filter => simp [outline, inputs, Fragment.length_values_outline]

end Draft

/-- A descriptor without its values. -/
def Descriptor.withoutValues (d : Descriptor) : Descriptor :=
  { d with
    conditions := Condition.withoutValuesAll d.conditions
    payload := d.payload.map Payload.withoutValues
    params := List.replicate d.params.length .null }

namespace Request

variable (d : Descriptor)

theorem getD_payload_withoutValues :
    d.withoutValues.payload.getD [] = Payload.withoutValues (d.payload.getD []) := by
  unfold Descriptor.withoutValues
  cases d.payload <;> rfl

/-- Assignments with the same outline are refused alike where there are none. -/
theorem outline_written {as as' : List Assignment}
    (h : as'.map Assignment.outline = as.map Assignment.outline)
    {make : List Assignment → Request}
    (hmake : ∀ as, (make as).outline = make (as.map Assignment.outline)) (e : Error) :
    Except.map outline (match as' with | [] => .error e | as => .ok (make as)) =
      Except.map outline (match as with | [] => .error e | as => .ok (make as)) := by
  cases as with
  | nil =>
    obtain rfl := List.map_eq_nil_iff.mp h
    rfl
  | cons a as =>
    cases as' with
    | nil => simp at h
    | cons a' as' => simp only [Except.map, hmake, h]

/-- The request of a descriptor has the outline of that of the one without values, and fails like
it. -/
theorem outline_request (mode : BindMode) (exec : Exec) :
    (d.withoutValues.request mode exec).map outline = (d.request mode exec).map outline := by
  have htable : d.withoutValues.table = d.table := rfl
  have hparams : d.withoutValues.params.length = d.params.length := List.length_replicate
  have hempty : d.withoutValues.params.isEmpty = d.params.isEmpty := by
    rw [Bool.eq_iff_iff, List.isEmpty_iff_length_eq_zero, hparams,
      List.isEmpty_iff_length_eq_zero]
  unfold Descriptor.request
  rw [getD_payload_withoutValues, htable, hparams, hempty]
  -- The checks before the payload read the same on both sides.
  split
  · rfl
  · split
    · rfl
    · cases exec with
      | insert =>
        exact outline_written (d.payload.getD []).outline_insertions (fun _ => rfl) _
      | update => exact outline_written (d.payload.getD []).outline_updates (fun _ => rfl) _
      | _ => rfl

/-- The draft of a request has the outline of that of the request's outline. -/
theorem outline_draftUnder_outline (names : Names) (r : Request) :
    (r.outline.draftUnder names d).outline = (r.draftUnder names d).outline := by
  cases r with
  | insert assignments =>
    simp [outline, draftUnder, Draft.outline, Assignment.outline, Function.comp_def]
  | update assignments =>
    simp [outline, draftUnder, Draft.outline, Assignment.outline, Assignment.fragment,
      Function.comp_def]
  | _ => rfl

/-- A draft has the outline of the one for a descriptor without values. -/
theorem outline_draftUnder (names : Names) (r : Request) :
    (r.draftUnder names d.withoutValues).outline = (r.draftUnder names d).outline := by
  have hfilter := Condition.outline_filterFragment names.column d.conditions
  have htable : d.withoutValues.qualifiedTable = d.qualifiedTable := rfl
  unfold draftUnder
  rw [htable]
  cases r with
  | insert _ | drop | truncate => rfl
  | _ => simp [Draft.outline, Descriptor.withoutValues, hfilter]

theorem unknown?_outline (r : Request) : r.outline.unknown? d = r.unknown? d := by
  cases r <;> rfl

theorem unknown?_withoutValues (r : Request) : r.unknown? d.withoutValues = r.unknown? d := by
  unfold unknown?
  rw [← Condition.firstUnknown?_withoutValuesAll d.conditions]
  rfl

end Request

/-! ## Statements -/

/-- What can be seen of a statement without the values that it binds: its text, whether it reads or
writes, the columns that it gives back, and the number of its parameters. -/
def Statement.visible (st : Statement) : String × StatementKind × List String × Nat :=
  (st.text, st.kind, st.returning, st.params.length)

/-- What can be seen of the statement of a plan is settled by the outline of its draft. -/
theorem Plan.visible_statement (p : Plan) {draft : Draft} (h : draft.outline = p.draft.outline)
    (dialect : Dialect) :
    ({ p with draft }.statement dialect .parameterized).visible =
      (p.statement dialect .parameterized).visible := by
  have htext : draft.text dialect .parameterized = p.draft.text dialect .parameterized := by
    rw [← draft.text_outline, h, Draft.text_outline]
  have hinputs : (draft.inputs .parameterized).length =
      (p.draft.inputs .parameterized).length := by
    rw [← draft.length_inputs_outline, h, Draft.length_inputs_outline]
  have houtputs : { p with draft }.outputs dialect = p.outputs dialect := rfl
  have hbody : { p with draft }.body dialect .parameterized = p.body dialect .parameterized := by
    rw [body, body, htext]
  have hreturning : { p with draft }.returningSql dialect .parameterized =
      p.returningSql dialect .parameterized := by
    rw [returningSql, returningSql, hinputs, houtputs]
  simp only [statement, Statement.visible, hbody, hreturning, houtputs, List.length_append,
    List.length_map, hinputs]

namespace Settings

variable {settings : Settings}

/-- What can be seen of a statement is the same without the values of its descriptor. -/
theorem visible_compileUnder (hmode : settings.mode = .parameterized) (names : Names)
    (d : Descriptor) (exec : Exec) :
    (settings.compileUnder names d.withoutValues exec).map Statement.visible =
      (settings.compileUnder names d exec).map Statement.visible := by
  have hrequest := Request.outline_request d settings.mode exec
  unfold compileUnder
  cases hr : d.request settings.mode exec with
  | error e =>
    cases hr' : d.withoutValues.request settings.mode exec with
    | error e' =>
      rw [hr, hr'] at hrequest
      obtain rfl : e' = e := Except.error.inj hrequest
      rfl
    | ok r' => simp [hr, hr', Except.map] at hrequest
  | ok r =>
    cases hr' : d.withoutValues.request settings.mode exec with
    | error e' => simp [hr, hr', Except.map] at hrequest
    | ok r' =>
      rw [hr, hr'] at hrequest
      have houtline : r'.outline = r.outline := Except.ok.inj hrequest
      -- The two requests differ in values, so that neither the check nor the plan tells them apart.
      have hunknown : r'.unknown? d.withoutValues = r.unknown? d := by
        rw [Request.unknown?_withoutValues, ← r'.unknown?_outline, houtline,
          Request.unknown?_outline]
      have hdraft : (r'.draftUnder names d.withoutValues).outline =
          (r.draftUnder names d).outline := by
        rw [Request.outline_draftUnder, ← Request.outline_draftUnder_outline, houtline,
          Request.outline_draftUnder_outline]
      have hvisible := (d.planUnder names exec r).visible_statement hdraft settings.dialect
      simp only [Except.bind, Condition.checked_map, hunknown, hmode]
      rw [← hvisible]
      rfl

/-- With parameters, two descriptors that are the same without their values have statements that
look the same, or fail with the same error. -/
theorem visible_compileAs (hmode : settings.mode = .parameterized) {d d' : Descriptor}
    (h : d.withoutValues = d'.withoutValues) (exec : Exec) {s s' : Session}
    (hs : s.cache = s'.cache) :
    ((settings.compileAs d exec).outcome s).map Statement.visible =
      ((settings.compileAs d' exec).outcome s').map Statement.visible := by
  have hlanguage : d.languageCode = d'.languageCode := by
    change d.withoutValues.languageCode = _
    rw [h]
    rfl
  have hnames : s.names d.languageCode = s'.names d'.languageCode := by
    rw [hlanguage]
    exact Session.names_of_cache hs _
  -- Both look like the one descriptor without values.
  rw [outcome_compileAs, outcome_compileAs, hnames, ← visible_compileUnder hmode _ d, h,
    visible_compileUnder hmode]

/-- A filter by a value, and by a term or an access list of two values and an owner. -/
private def sampleSearch (v owner : Value) (term : String) : Descriptor where
  table := "t"
  conditions :=
    [.compare "a" .ge v, .any [.search "s" term .anywhere, .permit "p" [v, v] false (some owner)]]

/-- A number looks like a text with a quote, and an owner like one that is null only when the
statement is compiled. -/
theorem visible_compileAs_search :
    ∃ st st',
      (compileAs {} (sampleSearch (.int 1) (.text "me") "x") .find).outcome {} = .ok st ∧
      (compileAs {} (sampleSearch (.text "' OR 1=1") (.deferred .null) "%") .find).outcome {} =
        .ok st' ∧
      st.visible = st'.visible := by
  obtain ⟨st, h⟩ : ∃ st,
      (compileAs {} (sampleSearch (.int 1) (.text "me") "x") .find).outcome {} = .ok st := by
    rw [outcome_compileAs]
    exact ⟨_, rfl⟩
  obtain ⟨st', h'⟩ : ∃ st',
      (compileAs {} (sampleSearch (.text "' OR 1=1") (.deferred .null) "%") .find).outcome {} =
        .ok st' := by
    rw [outcome_compileAs]
    exact ⟨_, rfl⟩
  have hmode : ({} : Settings).mode = .parameterized := rfl
  have hsame : (sampleSearch (.int 1) (.text "me") "x").withoutValues =
      (sampleSearch (.text "' OR 1=1") (.deferred .null) "%").withoutValues := rfl
  have hcache : ({} : Session).cache = ({} : Session).cache := rfl
  have hvisible := visible_compileAs hmode hsame .find hcache
  rw [h, h'] at hvisible
  exact ⟨st, st', h, h', Except.ok.inj hvisible⟩

end Settings

end FilterSql
