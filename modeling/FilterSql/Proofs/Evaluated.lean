import FilterSql.Proofs.Deferred
import FilterSql.Proofs.Inline
import FilterSql.Proofs.Placeholder.Discipline
import FilterSql.Proofs.Rewriting
import Mathlib.Data.List.Basic

/-!
# Deferred values in a statement

A descriptor can be compiled as it is, or with what they stand for in the place of its deferred
values (`Descriptor.evaluated`). Compiling commutes with evaluating, one step after the other: for
the tests of a filter and so for the filter (`filterFragment_evaluatedAll`), for what is written of
a payload (`insertions_evaluated`, `updates_evaluated`), for the request, its draft and its plan,
and for the statement of a plan (`statement_evaluated`). Evaluating a statement touches only its
parameters, so that both descriptors have the same text and, up to what is deferred in an array, the
same parameters. None of these is deferred as a whole (`Request.isDeferred_inputs`).

Three things look at a deferred value itself. What is deferred in an array stays so in the
parameters. An access list drops an owner that is null, but not one that is null only when it is
evaluated (`Condition.hasUnseenNull`). And SQL of the caller shows what deferred values in an array
yield in the end, whatever stands between (`Entry.hasChain`).
-/

namespace FilterSql

/-! ## Fragments -/

/-- A piece with its value evaluated. -/
def Piece.evaluated : Piece → Piece
  | value v => value v.evaluated
  | p => p

namespace Fragment

/-- A fragment with its values evaluated. -/
def evaluated (f : Fragment) : Fragment :=
  f.map Piece.evaluated

@[simp]
theorem evaluated_nil : evaluated [] = [] := rfl

@[simp]
theorem evaluated_text (s : String) (f : Fragment) :
    evaluated (.text s :: f) = .text s :: evaluated f := rfl

@[simp]
theorem evaluated_truth (b : Bool) (f : Fragment) :
    evaluated (.truth b :: f) = .truth b :: evaluated f := rfl

@[simp]
theorem evaluated_value (v : Value) (f : Fragment) :
    evaluated (.value v :: f) = .value v.evaluated :: evaluated f := rfl

@[simp]
theorem evaluated_append (f g : Fragment) : (f ++ g).evaluated = f.evaluated ++ g.evaluated :=
  List.map_append

@[simp]
theorem evaluated_bind (v : Value) : (bind v).evaluated = bind v.evaluated := by
  simp [bind]

@[simp]
theorem evaluated_bindList (vs : List Value) :
    (bindList vs).evaluated = bindList (vs.map Value.evaluated) := by
  cases vs with
  | nil => rfl
  | cons v vs =>
    simp only [bindList, evaluated_value, List.map_cons, Value.evaluated_resolve,
      Value.resolve_evaluated]
    congr 1
    -- After the first value each has a comma before it.
    induction vs with
    | nil => rfl
    | cons w vs ih => simp [ih]

@[simp]
theorem evaluated_join (separator : String) (fs : List Fragment) :
    (join separator fs).evaluated = join separator (fs.map evaluated) :=
  map_join (fun _ => rfl) separator fs

theorem values_evaluated (f : Fragment) : f.evaluated.values = f.values.map Value.evaluated := by
  induction f with
  | nil => rfl
  | cons p f ih => cases p <;> simp [ih]

theorem params_evaluated (mode : BindMode) (f : Fragment) :
    f.evaluated.params mode = (f.params mode).map Value.evaluated := by
  cases mode with
  | parameterized => exact f.values_evaluated
  | inline => rfl

/-- A fragment has the same text with its values evaluated. -/
theorem sql_evaluated (d : Dialect) (mode : BindMode) (n : Nat) (f : Fragment) :
    f.evaluated.sql d mode n = f.sql d mode n := by
  induction f generalizing n with
  | nil => rfl
  | cons p f ih => cases p <;> cases mode <;> simp [sql, ih, Value.literal_evaluated]

end Fragment

/-! ## Conditions -/

namespace Condition

mutual

/-- A condition with its values evaluated. -/
def evaluated : Condition → Condition
  | compare name comparer value => .compare name comparer value.evaluated
  | among name values => .among name (values.map Value.evaluated)
  | notAmong name values => .notAmong name (values.map Value.evaluated)
  | between name low high => .between name low.evaluated high.evaluated
  | datePart part name comparer value => .datePart part name comparer value.evaluated
  | permit name values required owner =>
    .permit name (values.map Value.evaluated) required (owner.map Value.evaluated)
  | any conditions => .any (evaluatedAll conditions)
  | c => c

/-- Conditions with their values evaluated. -/
def evaluatedAll : List Condition → List Condition
  | [] => []
  | c :: cs => evaluated c :: evaluatedAll cs

end

/-- Whether a condition has an owner that is null only when it is evaluated. -/
def hasUnseenNull : Condition → Bool
  | permit _ _ _ (some owner) => owner.resolve.isNull && !owner.isNull
  | _ => false

theorem evaluatedAll_eq_map (cs : List Condition) : evaluatedAll cs = cs.map evaluated := by
  induction cs with
  | nil => rfl
  | cons c cs ih => rw [evaluatedAll, ih, List.map_cons]

/-- Evaluating values rewrites the tests of a filter. -/
def evaluatedRewriting : Rewriting where
  rewrite := evaluated
  rewrite_any cs := by rw [evaluated, evaluatedAll_eq_map]
  rewrite_unknown _ := rfl
  isTest_rewrite {c} h := by
    cases c with
    | any _ | unknown _ => exact absurd h Bool.false_ne_true
    | _ => rfl

/-- An owner is there when it is evaluated if it is there before, and its null is seen. -/
theorem filter_map_evaluated {owner : Option Value}
    (h : ∀ v ∈ owner, (v.resolve.isNull && !v.isNull) = false) :
    (owner.map Value.evaluated).filter (!·.isNull) =
      (owner.filter (!·.isNull)).map Value.evaluated := by
  cases owner with
  | none => rfl
  | some v =>
    have hv := h v rfl
    cases hnull : v.isNull with
    | true =>
      obtain rfl : v = .null := by
        cases v <;> simp [Value.isNull] at hnull ⊢
      rfl
    | false =>
      have hresolved : v.evaluated.isNull = false := by
        rw [v.isNull_evaluated]
        simpa [hnull] using hv
      simp [Option.filter, hnull, hresolved]

variable (column : String → String)

/-- A test of evaluated values has the fragment of the test, with its values evaluated. -/
theorem agrees_evaluated {c : Condition} (h : c.hasUnseenNull = false) :
    evaluatedRewriting.Agrees column id Piece.evaluated c := by
  suffices hfragment : (c.evaluated.test? column).map Test.fragment =
      (c.test? column).map fun t => t.fragment.evaluated by
    simpa [Rewriting.Agrees, evaluatedRewriting, Fragment.evaluated] using hfragment
  cases c with
  | compare name comparer value =>
    -- The null that decides between the tests is looked for in the resolved value.
    simp only [evaluated, test?, comparisonTest, Value.resolve_evaluated, Value.isNull_evaluated]
    cases value.resolve.isNull with
    | true => cases comparer <;> rfl
    | false => simp [Test.fragment]
  | permit name values required owner =>
    -- The null that drops an owner is looked for in the value as it is.
    have howner : ∀ v ∈ owner, (v.resolve.isNull && !v.isNull) = false := by
      rintro v rfl
      exact h
    simp only [evaluated, test?, filter_map_evaluated howner]
    cases owner.filter (!·.isNull) <;> cases required <;>
      simp [Test.fragment, Test.ways, Test.membership]
  | search name term anchor => simp [evaluated, test?, Test.fragment, Value.evaluated]
  | among name values | notAmong name values =>
    simp [evaluated, test?, Test.fragment, Test.membership]
  | between name low high => simp [evaluated, test?, Test.fragment]
  | datePart part name comparer value => simp [evaluated, test?, Test.fragment]
  | blank _ | filled _ | raw _ | any _ | unknown _ => rfl

/-- A filter of evaluated values has the fragment of the filter, with its values evaluated. -/
theorem filterFragment_evaluatedAll {cs : List Condition}
    (h : ∀ t ∈ testsAll cs, t.hasUnseenNull = false) :
    filterFragment column (evaluatedAll cs) = (filterFragment column cs).evaluated := by
  have hfilter := evaluatedRewriting.map_filterFragment column (fun _ => rfl) (fun _ => rfl)
    fun t ht => agrees_evaluated column (h t ht)
  rw [List.map_id] at hfilter
  rw [evaluatedAll_eq_map]
  exact hfilter

theorem firstUnknown?_evaluatedAll (cs : List Condition) :
    firstUnknown? (evaluatedAll cs) = firstUnknown? cs := by
  rw [evaluatedAll_eq_map]
  exact evaluatedRewriting.unknown?_rewrite.2 cs

end Condition

/-! ## Payloads -/

/-- An assignment with its values evaluated. -/
def Assignment.evaluated (a : Assignment) : Assignment :=
  ⟨a.column, a.value.evaluated⟩

theorem Assignment.fragment_evaluated (a : Assignment) :
    a.evaluated.fragment = a.fragment.evaluated := rfl

namespace Entry

/-- An entry with its value evaluated. -/
def evaluated (e : Entry) : Entry :=
  { e with value := e.value.map Value.evaluated }

/-- Whether an entry is SQL of the caller in which one deferred value yields another. -/
def hasChain (e : Entry) : Bool :=
  match e.change, e.value with
  | .raw, some v | .rawUpdate, some v => v.resolve.chains
  | _, _ => false

/-- An insert writes for an evaluated entry what it writes for the entry, evaluated. -/
theorem insertion?_evaluated {e : Entry} (h : e.isWritten .insert → e.hasChain = false) :
    e.evaluated.insertion? = e.insertion?.map Assignment.evaluated := by
  obtain ⟨column, change, value⟩ := e
  cases value with
  | none => cases change <;> rfl
  | some v =>
    cases change with
    | raw =>
      -- The value goes into the text here, and not through a place that is open.
      have htext := Value.rawText_evaluated_of_resolve (h rfl)
      simp [evaluated, insertion?, inserted?, Assignment.evaluated, htext]
    | rawUpdate => rfl
    | _ =>
      simp [evaluated, insertion?, inserted?, Assignment.evaluated,
        Value.evaluated_operand_resolve]

/-- An update writes for an evaluated entry what it writes for the entry, evaluated. -/
theorem update?_evaluated {e : Entry} (h : e.isWritten .update → e.hasChain = false) :
    e.evaluated.update? = e.update?.map Assignment.evaluated := by
  obtain ⟨column, change, value⟩ := e
  cases value with
  | none => cases change <;> rfl
  | some v =>
    cases change with
    | raw | rawUpdate =>
      have htext := Value.rawText_evaluated_of_resolve (h rfl)
      simp [evaluated, update?, updated, Assignment.evaluated, htext]
    | _ =>
      simp [evaluated, update?, updated, Assignment.evaluated, Value.evaluated_operand_resolve]

end Entry

/-- A payload with its values evaluated. -/
def Payload.evaluated (p : Payload) : Payload :=
  p.map Entry.evaluated

namespace Payload

/-- What is written for evaluated entries is what is written for the entries, evaluated, if this is
so for each. -/
theorem filterMap_evaluated {write : Entry → Option Assignment} {p : Payload}
    (h : ∀ e ∈ p, write e.evaluated = (write e).map Assignment.evaluated) :
    p.evaluated.filterMap write = (p.filterMap write).map Assignment.evaluated := by
  rw [evaluated, List.filterMap_map, List.map_filterMap]
  exact List.filterMap_congr h

theorem insertions_evaluated {p : Payload}
    (h : ∀ e ∈ p, e.isWritten .insert → e.hasChain = false) :
    p.evaluated.insertions = p.insertions.map Assignment.evaluated :=
  filterMap_evaluated fun e he => Entry.insertion?_evaluated (h e he)

theorem updates_evaluated {p : Payload}
    (h : ∀ e ∈ p, e.isWritten .update → e.hasChain = false) :
    p.evaluated.updates = p.updates.map Assignment.evaluated :=
  filterMap_evaluated fun e he => Entry.update?_evaluated (h e he)

end Payload

/-! ## Requests and drafts -/

/-- A request with its values evaluated. -/
def Request.evaluated : Request → Request
  | insert assignments => insert (assignments.map Assignment.evaluated)
  | update assignments => update (assignments.map Assignment.evaluated)
  | r => r

/-- A draft with its values evaluated. -/
def Draft.evaluated : Draft → Draft
  | direct f => direct f.evaluated
  | template text params filter =>
    template text (params.map Value.evaluated) filter.evaluated

/-- A plan with its values evaluated. -/
def Plan.evaluated (p : Plan) : Plan :=
  { p with draft := p.draft.evaluated }

/-- A parameter with its value evaluated. -/
def Param.evaluated : Param → Param
  | input v => input v.evaluated
  | p => p

/-- A statement with its parameters evaluated. -/
def Statement.evaluated (st : Statement) : Statement :=
  { st with params := st.params.map Param.evaluated }

/-- A descriptor with its values evaluated. -/
def Descriptor.evaluated (d : Descriptor) : Descriptor :=
  { d with
    conditions := Condition.evaluatedAll d.conditions
    payload := d.payload.map Payload.evaluated
    params := d.params.map Value.evaluated }

/-- The entries of the payload that go into the statement of an operation. -/
def Descriptor.written (d : Descriptor) (exec : Exec) : List Entry :=
  match exec with
  | .insert | .update => (d.payload.getD []).filter (·.isWritten exec)
  | _ => []

/-- The tests of the filter that go into the statement of an operation. -/
def Descriptor.filterTests (d : Descriptor) (exec : Exec) : List Condition :=
  if exec.isFiltered then Condition.testsAll d.conditions else []

namespace Request

variable {d : Descriptor} {mode : BindMode} {exec : Exec} {r : Request}

/-- Evaluated assignments are refused where there are none. -/
theorem evaluated_written {as : List Assignment} {make : List Assignment → Request}
    (hmake : ∀ as, (make as).evaluated = make (as.map Assignment.evaluated)) (e : Error) :
    (match as.map Assignment.evaluated with | [] => .error e | as => .ok (make as)) =
      Except.map evaluated (match as with | [] => .error e | as => .ok (make as)) := by
  cases as with
  | nil => rfl
  | cons a as => simp only [List.map_cons, Except.map, hmake]

/-- The request of an evaluated descriptor is that of the descriptor, evaluated. -/
theorem request_evaluated (hpayload : ∀ e ∈ d.written exec, e.hasChain = false) :
    d.evaluated.request mode exec = (d.request mode exec).map evaluated := by
  have htable : d.evaluated.table = d.table := rfl
  have hlength : d.evaluated.params.length = d.params.length := List.length_map _
  have hempty : d.evaluated.params.isEmpty = d.params.isEmpty := List.isEmpty_map
  have hentries : d.evaluated.payload.getD [] = Payload.evaluated (d.payload.getD []) := by
    unfold Descriptor.evaluated
    cases d.payload <;> rfl
  unfold Descriptor.request
  rw [hentries, htable, hlength, hempty]
  -- The checks before the payload read the same on both sides.
  split
  · rfl
  · split
    · rfl
    · cases exec with
      | insert =>
        have hentry : ∀ e ∈ d.payload.getD [], e.isWritten .insert → e.hasChain = false :=
          fun e he hwritten => hpayload e (List.mem_filter.mpr ⟨he, hwritten⟩)
        simp only [Payload.insertions_evaluated hentry]
        exact evaluated_written (fun _ => rfl) _
      | update =>
        have hentry : ∀ e ∈ d.payload.getD [], e.isWritten .update → e.hasChain = false :=
          fun e he hwritten => hpayload e (List.mem_filter.mpr ⟨he, hwritten⟩)
        simp only [Payload.updates_evaluated hentry]
        exact evaluated_written (fun _ => rfl) _
      | scalar =>
        have hscalar : d.evaluated.scalarRequest = d.scalarRequest := rfl
        simp only [hscalar]
        cases hr : d.scalarRequest with
        | error e => rfl
        | ok r =>
          obtain ⟨spec, -, ⟨key, -, rfl⟩ | ⟨function, key, -, rfl⟩⟩ :=
            Descriptor.scalarRequest_eq_ok hr
          · rfl
          · rfl
      | query =>
        have hquery : d.evaluated.query = d.query := rfl
        simp only [hquery]
        cases d.query.filter (!Text.isBlankText ·) <;> rfl
      | _ => rfl

/-- The draft of an evaluated request is that of the request, evaluated. -/
theorem draftUnder_evaluated (names : Names)
    (hfilter : r.isFiltered → ∀ t ∈ Condition.testsAll d.conditions, t.hasUnseenNull = false) :
    r.evaluated.draftUnder names d.evaluated = (r.draftUnder names d).evaluated := by
  have hfragment : r.isFiltered →
      Condition.filterFragment names.column d.evaluated.conditions =
        (Condition.filterFragment names.column d.conditions).evaluated :=
    fun h => Condition.filterFragment_evaluatedAll names.column (hfilter h)
  have htable : d.evaluated.qualifiedTable = d.qualifiedTable := rfl
  have hparams : d.evaluated.params = d.params.map Value.evaluated := rfl
  unfold draftUnder
  rw [htable]
  cases r with
  | insert assignments =>
    simp [evaluated, Draft.evaluated, Assignment.evaluated, Function.comp_def]
  | update assignments =>
    simp [evaluated, Draft.evaluated, hfragment rfl, Assignment.fragment_evaluated,
      Function.comp_def]
  | drop | truncate => rfl
  | template text => simp [evaluated, Draft.evaluated, hfragment rfl, hparams]
  | _ => simp [evaluated, Draft.evaluated, hfragment rfl]

theorem unknown?_evaluated : r.evaluated.unknown? d.evaluated = r.unknown? d := by
  have hfiltered : r.evaluated.isFiltered = r.isFiltered := by cases r <;> rfl
  unfold unknown?
  rw [hfiltered, ← Condition.firstUnknown?_evaluatedAll d.conditions]
  rfl

end Request

/-! ## Bound values -/

/-- What a condition binds is resolved. -/
theorem Condition.isDeferred_bound (c : Condition) : ∀ v ∈ c.bound, v.isDeferred = false := by
  induction c using Condition.induction with
  | test c hc =>
    cases c with
    | compare name comparer value =>
      rw [bound]
      split <;> simp
    | permit name values required owner =>
      intro v hv
      rcases List.mem_append.mp hv with hv | hv
      · obtain ⟨w, -, rfl⟩ := Option.map_eq_some_iff.mp (Option.mem_toList.mp hv)
        exact w.isDeferred_resolve
      · obtain ⟨w, -, rfl⟩ := List.mem_map.mp hv
        exact w.isDeferred_resolve
    | search name term anchor =>
      intro v hv
      obtain rfl := List.mem_singleton.mp hv
      rfl
    | any _ | unknown _ => exact absurd hc Bool.false_ne_true
    | _ => simp [bound]
  | unknown kind => simp [bound]
  | any cs ih =>
    intro v hv
    rw [bound, boundAll_eq_flatMap] at hv
    obtain ⟨c, hc, hv⟩ := List.mem_flatMap.mp hv
    exact ih c hc v hv

/-- What writing an entry binds is resolved. -/
theorem Entry.isDeferred_bound (e : Entry) : ∀ v ∈ e.bound, v.isDeferred = false := by
  obtain ⟨column, change, value⟩ := e
  cases value <;> cases change <;> simp [bound]

/-- What an operation binds is resolved. -/
theorem Descriptor.isDeferred_boundValues (d : Descriptor) (exec : Exec) :
    ∀ v ∈ d.boundValues exec, v.isDeferred = false := by
  have hpayload : ∀ v ∈ (d.payload.getD []).flatMap Entry.bound, v.isDeferred = false := by
    intro v hv
    obtain ⟨e, -, hv⟩ := List.mem_flatMap.mp hv
    exact e.isDeferred_bound v hv
  have hfilter : ∀ v ∈ Condition.boundAll d.conditions, v.isDeferred = false := by
    intro v hv
    rw [Condition.boundAll_eq_flatMap] at hv
    obtain ⟨c, -, hv⟩ := List.mem_flatMap.mp hv
    exact c.isDeferred_bound v hv
  intro v hv
  rcases List.mem_append.mp hv with hv | hv
  · cases exec with
    | insert | update => exact hpayload v hv
    | _ => simp at hv
  · split at hv
    · exact hfilter v hv
    · simp at hv

/-- The input values of a draft are resolved. -/
theorem Request.isDeferred_inputs {d : Descriptor} {mode : BindMode} {exec : Exec} {r : Request}
    (h : d.request mode exec = .ok r) (names : Names) :
    ∀ v ∈ (r.draftUnder names d).inputs mode, v.isDeferred = false := by
  have hbound := d.isDeferred_boundValues exec
  by_cases he : exec = .query
  · -- A template brings parameters with it, which come before those of the filter.
    subst he
    obtain ⟨text, -, rfl⟩ := Descriptor.request_eq_ok h
    have hfilter : ∀ v ∈ (Condition.filterFragment names.column d.conditions).params mode,
        v.isDeferred = false := by
      cases mode with
      | parameterized => simpa [Descriptor.boundValues, Exec.isFiltered] using hbound
      | inline => simp
    intro v hv
    rcases List.mem_append.mp hv with hv | hv
    · obtain ⟨w, -, rfl⟩ := List.mem_map.mp hv
      exact w.isDeferred_resolve
    · exact hfilter v hv
  · cases mode with
    | parameterized =>
      rw [inputs_draftUnder names h he]
      exact hbound
    | inline =>
      obtain ⟨f, hf⟩ := exists_direct h he names
      simp [hf, Draft.inputs]

/-! ## Statements -/

namespace Draft

theorem inputs_evaluated (mode : BindMode) (draft : Draft) :
    draft.evaluated.inputs mode = (draft.inputs mode).map Value.evaluated := by
  cases draft with
  | direct f => exact f.params_evaluated mode
  | template text params filter =>
    simp [evaluated, inputs, Fragment.params_evaluated, Function.comp_def]

theorem text_evaluated (dialect : Dialect) (mode : BindMode) (draft : Draft) :
    draft.evaluated.text dialect mode = draft.text dialect mode := by
  cases draft with
  | direct f => exact f.sql_evaluated dialect mode 0
  | template text params filter => simp [evaluated, Draft.text, Fragment.sql_evaluated]

end Draft

/-- The statement of an evaluated plan is that of the plan, evaluated. -/
theorem Plan.statement_evaluated (p : Plan) (dialect : Dialect) (mode : BindMode) :
    p.evaluated.statement dialect mode = (p.statement dialect mode).evaluated := by
  have hinputs : p.evaluated.draft.inputs mode = (p.draft.inputs mode).map Value.evaluated :=
    p.draft.inputs_evaluated mode
  have hbody : p.evaluated.body dialect mode = p.body dialect mode := by
    unfold body
    rw [evaluated, p.draft.text_evaluated]
  have hreturning : p.evaluated.returningSql dialect mode = p.returningSql dialect mode := by
    rw [returningSql_eq, returningSql_eq, hinputs, List.length_map]
    rfl
  unfold statement
  rw [hbody, hreturning, hinputs]
  simp [Statement.evaluated, Param.evaluated, evaluated, outputs, Function.comp_def]

namespace Settings

variable {settings : Settings} {d : Descriptor} {exec : Exec}

/-- Compiling an evaluated descriptor gives the evaluated statement, or the same error. -/
theorem compileUnder_evaluated (names : Names)
    (howner : ∀ t ∈ d.filterTests exec, t.hasUnseenNull = false)
    (hpayload : ∀ e ∈ d.written exec, e.hasChain = false) :
    settings.compileUnder names d.evaluated exec =
      (settings.compileUnder names d exec).map Statement.evaluated := by
  unfold compileUnder
  rw [Request.request_evaluated hpayload]
  cases hr : d.request settings.mode exec with
  | error e => rfl
  | ok r =>
    -- What may be seen of a deferred value is no matter where the request leaves it out.
    have hfilter : r.isFiltered →
        ∀ t ∈ Condition.testsAll d.conditions, t.hasUnseenNull = false := by
      intro hfiltered
      rw [Request.isFiltered_eq hr] at hfiltered
      simpa [Descriptor.filterTests, hfiltered] using howner
    have hplan : d.evaluated.planUnder names exec r.evaluated =
        (d.planUnder names exec r).evaluated := by
      unfold Descriptor.planUnder Plan.evaluated
      rw [Request.draftUnder_evaluated names hfilter]
      rfl
    have hrequest : Except.map Request.evaluated (.ok r : Except Error Request) =
        .ok r.evaluated := rfl
    simp only [hrequest, Except.bind, Request.unknown?_evaluated, hplan, Condition.checked_map,
      Plan.statement_evaluated]

/-- A descriptor and the one with what they stand for in the place of its deferred values fail with
the same error, or give statements that are the same but for what is deferred in an array of the
parameters; and no parameter is deferred as a whole. Left out are an owner that is null only when it
is evaluated, and SQL of the caller in which one deferred value yields another. -/
theorem compileAs_evaluated (settings : Settings)
    (howner : ∀ t ∈ d.filterTests exec, t.hasUnseenNull = false)
    (hpayload : ∀ e ∈ d.written exec, e.hasChain = false)
    {s s' : Session} (hs : s.cache = s'.cache) :
    (settings.compileAs d.evaluated exec).outcome s' =
        ((settings.compileAs d exec).outcome s).map Statement.evaluated ∧
      ∀ st, (settings.compileAs d exec).outcome s = .ok st →
        ∀ v ∈ st.values, v.isDeferred = false := by
  have hlanguage : d.evaluated.languageCode = d.languageCode := rfl
  constructor
  · rw [outcome_compileAs, outcome_compileAs, hlanguage, ← Session.names_of_cache hs]
    exact compileUnder_evaluated _ howner hpayload
  · intro st h
    rw [outcome_compileAs] at h
    obtain ⟨r, hr, rfl⟩ := compileUnder_eq_ok h
    rw [Plan.values_statement]
    exact Request.isDeferred_inputs hr _

/-- An update with deferred values in its payload and in its filter: an operand that is null when it
is evaluated, SQL of the caller, a value that is deferred twice, one in an array, and an owner. -/
private def sampleDeferred : Descriptor where
  table := "t"
  payload := some [⟨"n", .add, some (.deferred .null)⟩,
    ⟨"r", .raw, some (.deferred (.array [.deferred (.text "now()"), .int 1]))⟩]
  conditions := [.compare "a" .eq (.deferred (.deferred (.int 1))),
    .any [.among "b" [.array [.deferred (.int 2)]],
      .permit "p" [] true (some (.deferred (.text "me")))]]

/-- The one value that is left deferred is the one in the array. -/
theorem compileAs_evaluated_update :
    ∃ st, (compileAs {} sampleDeferred .update).outcome {} = .ok st ∧
      (compileAs {} sampleDeferred.evaluated .update).outcome {} = .ok st.evaluated ∧
      st.values = [.int 0, .array [.deferred (.int 2)], .text "me"] ∧
      st.evaluated.values = [.int 0, .array [.int 2], .text "me"] ∧
      ∀ v ∈ st.values, v.isDeferred = false := by
  obtain ⟨st, h, hvalues, hevaluated⟩ : ∃ st,
      (compileAs {} sampleDeferred .update).outcome {} = .ok st ∧
        st.values = [.int 0, .array [.deferred (.int 2)], .text "me"] ∧
        st.evaluated.values = [.int 0, .array [.int 2], .text "me"] := by
    rw [outcome_compileAs]
    exact ⟨_, rfl, rfl, rfl⟩
  have howner : ∀ t ∈ sampleDeferred.filterTests .update, t.hasUnseenNull = false := by decide
  have hpayload : ∀ e ∈ sampleDeferred.written .update, e.hasChain = false := by decide
  have hcache : ({} : Session).cache = ({} : Session).cache := rfl
  obtain ⟨hsame, hresolved⟩ := compileAs_evaluated {} howner hpayload hcache
  rw [h] at hsame
  exact ⟨st, h, hsame, hvalues, hevaluated, hresolved st h⟩

/-- A filter by an array with a deferred value. -/
private def sampleArray : Descriptor where
  table := "t"
  conditions := [.compare "a" .eq (.array [.deferred (.int 1)])]

/-- An access list with an owner that is null only when it is evaluated. -/
private def sampleOwner : Descriptor where
  table := "t"
  conditions := [.permit "p" [.int 1] false (some (.deferred .null))]

/-- SQL of the caller with a value in an array that is deferred twice. -/
private def sampleChain : Descriptor where
  table := "t"
  payload := some [⟨"a", .raw, some (.array [.deferred (.deferred (.int 1))])⟩]

/-- Deferred values are seen in an array of the parameters, where they stay deferred, in the owner
of an access list, and in SQL of the caller. -/
theorem evaluated_seen :
    (∃ st st', (compileAs {} sampleArray .find).outcome {} = .ok st ∧
      (compileAs {} sampleArray.evaluated .find).outcome {} = .ok st' ∧
      st.params = [.input (.array [.deferred (.int 1)])] ∧
      st'.params = [.input (.array [.int 1])]) ∧
    (∃ st st', (compileAs {} sampleOwner .find).outcome {} = .ok st ∧
      (compileAs {} sampleOwner.evaluated .find).outcome {} = .ok st' ∧
      st.text = "SELECT * FROM t WHERE (\"userid\"=:1 OR \"p\" IN (:2))" ∧
      st'.text = "SELECT * FROM t WHERE \"p\" IN (:1)") ∧
    ∃ st st', (compileAs {} sampleChain .update).outcome {} = .ok st ∧
      (compileAs {} sampleChain.evaluated .update).outcome {} = .ok st' ∧
      st.text = "UPDATE t SET \"a\" = 1" ∧ st'.text = "UPDATE t SET \"a\" = NULL" := by
  simp only [outcome_compileAs]
  refine ⟨⟨_, _, rfl, rfl, rfl, rfl⟩, ⟨_, _, rfl, rfl, ?_, ?_⟩, ⟨_, _, rfl, rfl, ?_, ?_⟩⟩ <;>
    decide +kernel

end Settings

end FilterSql
