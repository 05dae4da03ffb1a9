import FilterSql.Proofs.Fragment
import FilterSql.Proofs.Plan
import FilterSql.Proofs.Request

/-!
# Values in the text

A fragment is text with a gap for each value: `head` is the text before the first gap and `tails`
is the text after each. With parameters the gaps are filled with placeholders, and inline with the
literals of the same values (`sql_parameterized`, `sql_inline`). Whether values go into the text is
of no consequence for anything else: a compilation fails in both ways with the same error, and
otherwise gives two statements with one sequence of text between the gaps, up to the columns that
are given back (`Plan.writesOut`). These are counted on from the values, of which the inline
statement binds none.
-/

namespace FilterSql

/-- Text with gaps, filled from the left: `first` is before the gaps, and after each comes one of
`rest`. -/
def Text.weave (first : String) (fills rest : List String) : String :=
  first ++ String.join (List.zipWith (· ++ ·) fills rest)

theorem Text.append_weave (s first : String) (fills rest : List String) :
    s ++ weave first fills rest = weave (s ++ first) fills rest := by
  rw [weave, weave, String.append_assoc]

theorem Text.weave_cons (fill second : String) (fills rest : List String) :
    weave "" (fill :: fills) (second :: rest) = fill ++ weave second fills rest := by
  simp [weave, String.append_assoc]

namespace Fragment

/-- The text of a fragment before its first value. -/
def head (d : Dialect) : Fragment → String
  | [] => ""
  | .text s :: f => s ++ head d f
  | .truth b :: f => d.truth b ++ head d f
  | .value _ :: _ => ""

/-- The text of a fragment after each of its values, up to the next. -/
def tails (d : Dialect) : Fragment → List String
  | [] => []
  | .text _ :: f | .truth _ :: f => tails d f
  | .value _ :: f => head d f :: tails d f

variable (d : Dialect)

/-- There is text after each value. -/
theorem length_tails (f : Fragment) : (f.tails d).length = f.values.length := by
  induction f with
  | nil => rfl
  | cons p f ih =>
    cases p with
    | text s => exact ih
    | truth b => exact ih
    | value v => rw [tails, List.length_cons, ih, values_value, List.length_cons]

/-- With parameters the gaps hold placeholders, counted on from the parameters before them. -/
theorem sql_parameterized (n : Nat) (f : Fragment) :
    f.sql d .parameterized n =
      Text.weave (f.head d) ((List.range' (n + 1) f.values.length).map d.placeholder)
        (f.tails d) := by
  induction f generalizing n with
  | nil => simp [sql, head, tails, Text.weave]
  | cons p f ih =>
    cases p with
    | text s => rw [sql, ih, Text.append_weave]; rfl
    | truth b => rw [sql, ih, Text.append_weave]; rfl
    | value v =>
      rw [sql, ih, head, tails, values_value, List.length_cons, List.range'_succ, List.map_cons,
        Text.weave_cons]

/-- Inline the gaps hold the literals of the values. -/
theorem sql_inline (n : Nat) (f : Fragment) :
    f.sql d .inline n = Text.weave (f.head d) (f.values.map (Value.literal d)) (f.tails d) := by
  induction f generalizing n with
  | nil => simp [sql, head, tails, Text.weave]
  | cons p f ih =>
    cases p with
    | text s => rw [sql, ih, Text.append_weave]; rfl
    | truth b => rw [sql, ih, Text.append_weave]; rfl
    | value v => rw [sql, ih, head, tails, values_value, List.map_cons, Text.weave_cons]

end Fragment

/-- Outside raw queries a draft is a fragment. -/
theorem Request.exists_direct {d : Descriptor} {mode : BindMode} {exec : Exec} {r : Request}
    (h : d.request mode exec = .ok r) (he : exec ≠ .query) (names : Names) :
    ∃ f, r.draftUnder names d = .direct f := by
  have hr := Descriptor.request_eq_ok h
  cases exec with
  | query => exact absurd rfl he
  | scalar =>
    obtain ⟨spec, -, ⟨key, -, rfl⟩ | ⟨function, key, -, rfl⟩⟩ := Descriptor.scalarRequest_eq_ok hr
    · exact ⟨_, rfl⟩
    · exact ⟨_, rfl⟩
  | _ =>
    obtain rfl : r = _ := hr
    exact ⟨_, rfl⟩

/-- `q` is `p` with the values of the parameters in the text. Both have the same text around the
values and give back columns after it. The placeholders of these are counted on from the values in
`p`, and from the start in `q`. -/
def Statement.WritesOut (dialect : Dialect) (outputs columns : List String) (p q : Statement) :
    Prop :=
  ∃ (first : String) (rest : List String) (values : List Value),
    rest.length = values.length ∧
    p.params = values.map .input ++ outputs.map .output ∧
    p.text = Text.weave first ((List.range' 1 values.length).map dialect.placeholder) rest ++
      dialect.returningAfter values.length columns ∧
    q.params = outputs.map .output ∧
    q.text = Text.weave first (values.map (Value.literal dialect)) rest ++
      dialect.returningAfter 0 columns

/-- A plan with a fragment for its draft gives statements with the same text around its values. -/
theorem Plan.writesOut {p : Plan} {f : Fragment} (hf : p.draft = .direct f) (dialect : Dialect) :
    Statement.WritesOut dialect (p.outputs dialect) (p.returning.map (·.2))
      (p.statement dialect .parameterized) (p.statement dialect .inline) := by
  -- The order and the page are text after the last value.
  let g : Fragment := f ++ [.text (p.order ++ dialect.page p.take p.skip)]
  have hvalues : g.values = f.values := by simp [g]
  have hbody : ∀ mode, p.body dialect mode = g.sql dialect mode 0 := by
    intro mode
    rw [body, hf, Draft.text, Fragment.sql_append, Fragment.sql, Fragment.sql, String.append_empty,
      String.append_assoc]
  have hinputs : ∀ mode, p.draft.inputs mode = f.params mode := by
    intro mode
    rw [hf, Draft.inputs]
  refine ⟨g.head dialect, g.tails dialect, g.values, g.length_tails dialect, ?_, ?_, ?_, ?_⟩
  · rw [statement, hinputs, hvalues, Fragment.params_parameterized]
  · rw [statement, hbody, g.sql_parameterized, returningSql_eq, hinputs, hvalues,
      Fragment.params_parameterized]
  · rw [statement, hinputs, Fragment.params_inline]
    rfl
  · rw [statement, hbody, g.sql_inline, returningSql_eq, hinputs, Fragment.params_inline]
    rfl

namespace Settings

/-- Settings with another way for values to reach the database. -/
def withMode (settings : Settings) (mode : BindMode) : Settings :=
  { settings with mode }

/-- Outside raw queries a compilation fails in both ways with the same error, or gives in both a
statement, of which the inline one has the values of the other in its text. -/
theorem inline_compileAs (settings : Settings) (d : Descriptor) {exec : Exec} (he : exec ≠ .query)
    {s s' : Session} (hs : s.cache = s'.cache) :
    (∀ e, ((settings.withMode .parameterized).compileAs d exec).outcome s = .error e ↔
      ((settings.withMode .inline).compileAs d exec).outcome s' = .error e) ∧
    ∀ p, ((settings.withMode .parameterized).compileAs d exec).outcome s = .ok p →
      ∃ q, ((settings.withMode .inline).compileAs d exec).outcome s' = .ok q ∧
        p.WritesOut settings.dialect
          (match settings.dialect with
            | .oracle => d.returned exec
            | .postgres => [])
          ((d.returned exec).map (s.column d.languageCode)) q := by
  rw [outcome_compileAs, outcome_compileAs, ← Session.names_of_cache hs]
  -- Both ways make one request and one plan; they part only when its statement is written.
  have hrequest : d.request .inline exec = d.request .parameterized exec :=
    Descriptor.request_mode he .parameterized
  simp only [compileUnder, withMode, hrequest]
  cases hr : d.request .parameterized exec with
  | error e => simp [Except.bind]
  | ok r =>
    obtain ⟨f, hf⟩ := Request.exists_direct hr he (s.names d.languageCode)
    have hwrites := (d.planUnder (s.names d.languageCode) exec r).writesOut hf settings.dialect
    have houtputs : (d.planUnder (s.names d.languageCode) exec r).outputs settings.dialect =
        match settings.dialect with
        | .oracle => d.returned exec
        | .postgres => [] := by
      unfold Plan.outputs
      cases settings.dialect <;> simp [Descriptor.planUnder, Names.listed, Dialect.bindsReturned,
        Function.comp_def]
    have hcolumns : (d.planUnder (s.names d.languageCode) exec r).returning.map (·.2) =
        (d.returned exec).map (s.column d.languageCode) := by
      simp [Descriptor.planUnder, Names.listed, Session.names, Function.comp_def]
    rw [houtputs, hcolumns] at hwrites
    cases hplan : Condition.checked settings.strict (r.unknown? d)
        (d.planUnder (s.names d.languageCode) exec r) with
    | error e => simp [Except.bind, hplan, Except.map]
    | ok plan =>
      obtain rfl := Condition.eq_of_checked_eq_ok hplan
      constructor
      · simp [Except.bind, hplan, Except.map]
      · intro p hp
        obtain rfl : _ = p := by simpa [Except.bind, hplan, Except.map] using hp
        exact ⟨_, by rw [Except.bind, hplan]; rfl, hwrites⟩

/-- A row with a text that is quoted, and an operand that is null when the insert is compiled. -/
private def sampleInsert : Descriptor where
  table := "t"
  payload := some [⟨"a", .assign, some (.text "it's")⟩, ⟨"b", .add, some (.deferred .null)⟩]
  returning := some ["id"]

/-- An insert on Oracle binds its two values, the second of which counts as 0, and the returned
column, and inline only the latter. -/
theorem inline_compileAs_insert :
    ∃ p q, ((withMode {} .parameterized).compileAs sampleInsert .insert).outcome {} = .ok p ∧
      ((withMode {} .inline).compileAs sampleInsert .insert).outcome {} = .ok q ∧
      p.params = [.input (.text "it's"), .input (.int 0), .output "id"] ∧
      q.params = [.output "id"] ∧ p.WritesOut .oracle ["id"] ["\"id\""] q := by
  obtain ⟨p, hp, hparams⟩ : ∃ p,
      ((withMode {} .parameterized).compileAs sampleInsert .insert).outcome {} = .ok p ∧
        p.params = [.input (.text "it's"), .input (.int 0), .output "id"] := by
    rw [outcome_compileAs]
    exact ⟨_, rfl, rfl⟩
  obtain ⟨q, hq, hwrites⟩ := (inline_compileAs {} sampleInsert (by decide) rfl).2 p hp
  have houtputs : q.params = [.output "id"] := by
    obtain ⟨-, -, -, -, -, -, houtputs, -⟩ := hwrites
    exact houtputs
  exact ⟨p, q, hp, hq, hparams, houtputs, hwrites⟩

end Settings

end FilterSql
